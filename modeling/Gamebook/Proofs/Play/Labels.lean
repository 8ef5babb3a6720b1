import Gamebook.Proofs.Play.Pages

/-! # What can be read of a choice

A choice must have a label that is not blank, but the label is looked at before its scripts are run.
A label whose scripts assign, or have nothing to show, leaves the player with a choice that says
nothing (`text_eq_empty_iff_of_loadRoleplay`); paragraphs of which nothing is left are not shown.
-/

namespace Gamebook

namespace Content

/-- Nothing is to be seen of pieces of a text: its literal text is blank, and each of its scripts
can be run and assigns, or has a blank value. -/
inductive Fades : Context → List Text.Piece → Prop where
  | nil {context : Context} : Fades context []
  | literal {context : Context} {text : List Char} {rest : List Text.Piece}
      (hblank : Text.allBlank text = true) (hrest : Fades context rest) :
      Fades context (.literal text :: rest)
  | assigns {context : Context} {body : List Char} {script : Script} {effect : Script.Effect}
      {rest : List Text.Piece} (hread : spanScript body = .ok script)
      (hrun : script.run context = .ok effect) (hsilent : script.isAssignment = true)
      (hrest : Fades (effect.apply context) rest) : Fades context (.span body :: rest)
  | shows {context : Context} {body : List Char} {script : Script} {effect : Script.Effect}
      {rest : List Text.Piece} (hread : spanScript body = .ok script)
      (hrun : script.run context = .ok effect)
      (hblank : Text.allBlank effect.value.text.toList = true)
      (hrest : Fades (effect.apply context) rest) : Fades context (.span body :: rest)

theorem fades_literal_iff {context : Context} {text : List Char} {rest : List Text.Piece} :
    Fades context (.literal text :: rest) ↔ Text.allBlank text = true ∧ Fades context rest := by
  constructor
  · intro h
    cases h with
    | literal hblank hrest => exact ⟨hblank, hrest⟩
  · rintro ⟨hblank, hrest⟩
    exact .literal hblank hrest

/-- A span that is no script, or whose script fails, stays to be seen. -/
theorem fades_span_iff {context : Context} {body : List Char} {rest : List Text.Piece} :
    Fades context (.span body :: rest) ↔
      Text.allBlank (renderSpan context body).1 = true ∧
        Fades (renderSpan context body).2 rest := by
  constructor
  · intro h
    cases h with
    | assigns hread hrun hsilent hrest =>
        simp only [renderSpan, hread, hrun, if_pos hsilent]
        exact ⟨rfl, hrest⟩
    | shows hread hrun hblank hrest =>
        simp only [renderSpan, hread, hrun]
        split
        · exact ⟨rfl, hrest⟩
        · exact ⟨hblank, hrest⟩
  · rintro ⟨hblank, hrest⟩
    unfold renderSpan at hblank hrest
    split at hblank
    · cases hblank
    next script hread =>
      split at hblank
      · cases hblank
      next effect hrun =>
        simp only [hread, hrun] at hrest
        by_cases hsilent : script.isAssignment = true
        · exact .assigns hread hrun hsilent hrest
        · rw [if_neg hsilent] at hblank
          exact .shows hread hrun hblank hrest

theorem fades_iff {context : Context} {pieces : List Text.Piece} :
    Fades context pieces ↔ Text.allBlank (renderPieces context pieces) = true := by
  induction pieces generalizing context with
  | nil => exact iff_of_true .nil rfl
  | cons piece rest ih =>
      cases piece with
      | literal text =>
          rw [fades_literal_iff, renderPieces, Text.allBlank_append, Bool.and_eq_true, ih]
      | span body =>
          rw [fades_span_iff, renderPieces, Text.allBlank_append, Bool.and_eq_true, ih]

/-- Nothing is left of a text when it is rendered exactly if it fades. -/
theorem render_eq_empty_iff_fades {context : Context} {text : String} :
    render context text = "" ↔ Fades context (Text.pieces text.toList) := by
  rw [render_eq_empty_iff, fades_iff, renderSpans]

/-- Literal text that is not blank keeps a text from fading, whatever its scripts do. -/
theorem not_fades_of_literal {context : Context} {pieces : List Text.Piece} {text : List Char}
    (hmem : .literal text ∈ pieces) (hwords : Text.allBlank text = false) :
    ¬ Fades context pieces := by
  intro h
  induction h with
  | nil => cases hmem
  | literal hblank _ ih =>
      rcases List.mem_cons.1 hmem with heq | hmem
      · cases heq
        rw [hblank] at hwords
        cases hwords
      · exact ih hmem
  | assigns _ _ _ _ ih => exact ih (by simpa using hmem)
  | shows _ _ _ _ ih => exact ih (by simpa using hmem)

end Content

theorem goOnText_ne_empty (ends : Bool) : goOnText ends ≠ "" := by
  cases ends <;> decide

namespace Document

variable {d : Document}

/-- The label of a choice fades. -/
def LabelFades (d : Document) (context : Context) (choice : d.Ref) : Prop :=
  ∃ label, (d.node choice).attribute? "text" = some label ∧
    Content.Fades context (Text.pieces label.toList)

theorem text_ne_empty_of_mem_shown {context : Context} {child : d.Ref} {item : ContentItem}
    (h : item ∈ d.shown context child) : item.text ≠ "" := by
  have hparagraph {kind : ContentKind} (h : item ∈ (d.node child).paragraph context kind) :
      item.text ≠ "" := by
    unfold Node.paragraph at h
    split at h
    · cases h
    next hne =>
      rw [List.mem_singleton] at h
      rwa [h]
  unfold shown Node.paragraphs at h
  split at h
  · split at h
    · exact hparagraph h
    · exact hparagraph h
    · cases h
  · cases h

theorem label_eq_empty_iff {r choice : d.Ref} {context : Context} {step : RoleplayStep}
    (h : (d.loadRoleplay r context).answer = .ok step)
    (hmem : choice ∈ d.choicesIn r step.context) :
    d.label step.context choice = "" ↔ d.LabelFades step.context choice := by
  obtain ⟨text, htext, hlabel⟩ := label_of_loadRoleplay h hmem
  rw [hlabel, Content.render_eq_empty_iff_fades, LabelFades, htext]
  simp

/-- The label that a choice of a piece of story that loads is written with is not blank. -/
theorem exists_label_of_loadRoleplay {r choice : d.Ref} {context : Context} {step : RoleplayStep}
    (h : (d.loadRoleplay r context).answer = .ok step)
    (hmem : choice ∈ d.choicesIn r step.context) :
    ∃ label, (d.node choice).attribute? "text" = some label ∧
      Text.allBlank label.toList = false := by
  obtain ⟨hchild, htag, hpart⟩ := mem_choicesIn.1 hmem
  rw [(choices_of_loadRoleplay h).1] at hpart
  have htag : (d.node choice).tag = .choice := htag
  cases fitsPage_of_loadRoleplay h (mem_present.2 ⟨hchild, hpart⟩) with
  | choice _ hlabel hwords => exact ⟨_, hlabel, hwords⟩
  | text hother => simp [htag] at hother
  | instruction hother => simp [htag] at hother
  | finish hother => simp [htag] at hother

/-- All that is offered can be read exactly if no label of a choice that takes part fades. -/
theorem forall_text_ne_empty_iff {r : d.Ref} {context : Context} {step : RoleplayStep}
    (h : (d.loadRoleplay r context).answer = .ok step) :
    (∀ choice ∈ step.choices, choice.text ≠ "") ↔
      ∀ choice ∈ d.choicesIn r step.context, ¬ d.LabelFades step.context choice := by
  constructor
  · intro hall choice hmem hfades
    obtain ⟨i, hi⟩ := List.mem_iff_getElem?.1 hmem
    have hoffered := getElem?_choices_of_loadRoleplay h hi
    exact hall _ (List.mem_of_getElem? hoffered) ((label_eq_empty_iff h hmem).2 hfades)
  · intro hnone choice hmem
    rw [(choices_of_loadRoleplay h).2] at hmem
    split at hmem
    · rw [List.mem_singleton] at hmem
      rw [hmem]
      exact goOnText_ne_empty _
    · obtain ⟨⟨own, place⟩, hown, rfl⟩ := List.mem_map.1 hmem
      have hown := List.fst_mem_of_mem_zipIdx hown
      exact fun hempty => hnone own hown ((label_eq_empty_iff h hown).1 hempty)

/-- Whatever a piece of story shows can be read: no paragraph is empty, and neither is the choice to
go on. A choice of its own is offered at its place with a text that is empty exactly if its label
fades, although the label itself is not blank. So every choice can be read exactly if no label of a
choice that takes part fades, as none does that has more than blanks beside its scripts. -/
theorem text_eq_empty_iff_of_loadRoleplay (d : Document) (r : d.Ref) (context : Context)
    (step : RoleplayStep) (h : (d.loadRoleplay r context).answer = .ok step) :
    (∀ item ∈ step.content, item.text ≠ "") ∧
    (d.choicesIn r step.context = [] → ∀ choice ∈ step.choices, choice.text ≠ "") ∧
    (∀ (i : Nat) (choice : d.Ref), (d.choicesIn r step.context)[i]? = some choice →
      ∃ (label : String) (offered : Choice), (d.node choice).attribute? "text" = some label ∧
        Text.allBlank label.toList = false ∧ step.choices[i]? = some offered ∧
        (offered.text = "" ↔ Content.Fades step.context (Text.pieces label.toList)) ∧
        ((∃ text, .literal text ∈ Text.pieces label.toList ∧ Text.allBlank text = false) →
          offered.text ≠ "")) ∧
    ((∀ choice ∈ step.choices, choice.text ≠ "") ↔
      ∀ choice ∈ d.choicesIn r step.context, ¬ d.LabelFades step.context choice) := by
  refine ⟨?_, ?_, ?_, forall_text_ne_empty_iff h⟩
  · intro item hitem
    rw [content_of_loadRoleplay h] at hitem
    obtain ⟨child, -, hitem⟩ := List.mem_flatMap.1 hitem
    exact text_ne_empty_of_mem_shown hitem
  · intro hnone
    rw [forall_text_ne_empty_iff h, hnone]
    simp
  · intro i choice hi
    have hmem := List.mem_of_getElem? hi
    obtain ⟨label, hlabel, hwords⟩ := exists_label_of_loadRoleplay h hmem
    have hempty : d.label step.context choice = "" ↔
        Content.Fades step.context (Text.pieces label.toList) := by
      rw [label_eq_empty_iff h hmem, LabelFades, hlabel]
      simp
    refine ⟨label, _, hlabel, hwords, getElem?_choices_of_loadRoleplay h hi, hempty, ?_⟩
    rintro ⟨text, htext, hvisible⟩ hnothing
    exact Content.not_fades_of_literal htext hvisible (hempty.1 hnothing)

/-- A card with a choice that sets out at once, one that names the guide, and one with a price. -/
def quay : Document :=
  .ofOutline (.branch (.bare .quest) [.branch (.bare .roleplay) [
    .branch { Node.bare .choice with
      attributes := .ofList [("text", "{{gone = true}}")] } [],
    .branch { Node.bare .choice with attributes := .ofList [("text", "{{guide}}")] } [],
    .branch { Node.bare .choice with
      attributes := .ofList [("text", r"Pay{{guide = ''}}")] } []]])

/-- The card of the quay. -/
def quayCard : quay.Ref := ⟨1, by decide +kernel⟩

/-- To a player whose guide has no name two of the three choices on the quay say nothing. -/
theorem text_eq_empty_iff_of_loadRoleplay_quay :
    ∃ step, (quay.loadRoleplay quayCard (.ofList [("guide", .string "")])).answer = .ok step ∧
      step.choices = [⟨"", 0⟩, ⟨"", 1⟩, ⟨"Pay", 2⟩] ∧
      Content.Fades step.context (Text.pieces "{{gone = true}}".toList) ∧
      Content.Fades step.context (Text.pieces "{{guide}}".toList) := by
  have hload : (quay.loadRoleplay quayCard (.ofList [("guide", .string "")])).answer =
      .ok ⟨none, none, [], [⟨"", 0⟩, ⟨"", 1⟩, ⟨"Pay", 2⟩], .ofList [("guide", .string "")]⟩ :=
    Except.toOption_eq_some_iff.1 (by decide +kernel)
  have hin : quay.choicesIn quayCard (.ofList [("guide", .string "")]) =
      [⟨2, by decide +kernel⟩, ⟨3, by decide +kernel⟩, ⟨4, by decide +kernel⟩] := by
    decide +kernel
  obtain ⟨-, -, hoffered, -⟩ := text_eq_empty_iff_of_loadRoleplay quay quayCard _ _ hload
  refine ⟨_, hload, rfl, ?_, ?_⟩
  · obtain ⟨label, offered, hlabel, -, hsame, hempty, -⟩ := hoffered 0 _ (by rw [hin]; rfl)
    have htext : (quay.node ⟨2, by decide +kernel⟩).attribute? "text" =
        some "{{gone = true}}" := by
      decide +kernel
    cases htext.symm.trans hlabel
    cases hsame
    exact hempty.1 rfl
  · obtain ⟨label, offered, hlabel, -, hsame, hempty, -⟩ := hoffered 1 _ (by rw [hin]; rfl)
    have htext : (quay.node ⟨3, by decide +kernel⟩).attribute? "text" =
        some "{{guide}}" := by
      decide +kernel
    cases htext.symm.trans hlabel
    cases hsame
    exact hempty.1 rfl

end Document

end Gamebook
