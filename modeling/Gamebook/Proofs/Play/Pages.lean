import Gamebook.Proofs.Play.Paragraphs
import Gamebook.Proofs.Play.Verdicts

/-! # What comes of a piece of story

A piece of story is judged by those of its children that take part after its state block. The first
of them that has no place on its page is to blame, and what it is to blame for depends on what it
is; if all of them have one the page is shown, with the paragraphs of its texts and instructions in
order. `answer_loadRoleplay_iff` says that loading a piece of story comes to this and to nothing
else.
-/

namespace Gamebook

/-! ## One node -/

namespace Node

/-- What has a place on a page: texts and instructions, choices that say something, and triggers
that end the quest. -/
inductive FitsPage (node : Node) : Prop where
  | text (htag : node.tag = .text) : FitsPage node
  | instruction (htag : node.tag = .instruction) : FitsPage node
  | choice {label : String} (htag : node.tag = .choice)
      (hlabel : node.attribute? "text" = some label)
      (hwords : Text.allBlank label.toList = false) : FitsPage node
  | finish (htag : node.tag = .trigger) (hends : Text.trimmed node.text = "end") : FitsPage node

/-- What a node that has no place on a page is to blame for. -/
inductive Misfits (node : Node) : Cause → Prop where
  | choice (htag : node.tag = .choice)
      (hsilent : ∀ label, node.attribute? "text" = some label → Text.allBlank label.toList = true) :
      Misfits node .choiceWithoutText
  | event (htag : node.tag = .event) : Misfits node .roleplayEvent
  | trigger (htag : node.tag = .trigger) (hgoes : Text.trimmed node.text ≠ "end") :
      Misfits node .roleplayTrigger
  | other (htag : node.tag ∈ [.quest, .roleplay, .combat, .enemyLine]) :
      Misfits node (.roleplayChild node.tag)

theorem fitsPage_or_misfits (node : Node) : node.FitsPage ∨ ∃ cause, node.Misfits cause := by
  cases htag : node.tag with
  | text => exact Or.inl (.text htag)
  | instruction => exact Or.inl (.instruction htag)
  | choice =>
      by_cases hwords : ∃ label, node.attribute? "text" = some label ∧
          Text.allBlank label.toList = false
      · obtain ⟨label, hlabel, hwords⟩ := hwords
        exact Or.inl (.choice htag hlabel hwords)
      · refine Or.inr ⟨_, .choice htag fun label hlabel => ?_⟩
        by_contra hblank
        exact hwords ⟨label, hlabel, Bool.eq_false_iff.2 hblank⟩
  | trigger =>
      by_cases hends : Text.trimmed node.text = "end"
      · exact Or.inl (.finish htag hends)
      · exact Or.inr ⟨_, .trigger htag hends⟩
  | event => exact Or.inr ⟨_, .event htag⟩
  | quest => exact Or.inr ⟨_, .other (by simp [htag])⟩
  | roleplay => exact Or.inr ⟨_, .other (by simp [htag])⟩
  | combat => exact Or.inr ⟨_, .other (by simp [htag])⟩
  | enemyLine => exact Or.inr ⟨_, .other (by simp [htag])⟩

end Node

/-- The code of the fault with which a kind of node that has no place on a page is met. -/
def Tag.misfitCode : Tag → String
  | .choice => "CHOICE_TEXT_MISSING"
  | .event => "ROLEPLAY_EVENT_CHILD"
  | _ => "ROLEPLAY_CHILD_INVALID"

theorem Node.Misfits.code_eq {node : Node} {cause : Cause} (h : node.Misfits cause) :
    cause.code = node.tag.misfitCode := by
  cases h with
  | choice htag => rw [htag]; rfl
  | event htag => rw [htag]; rfl
  | trigger htag => rw [htag]; rfl
  | other htag =>
      simp only [List.mem_cons, List.not_mem_nil, or_false] at htag
      rcases htag with htag | htag | htag | htag <;> simp [htag, Cause.code, Tag.misfitCode]

namespace Page

theorem exists_add_of_fitsPage {node : Node} (h : node.FitsPage) (page : Page) (context : Context) :
    ∃ next, page.add context node = .ok next := by
  unfold add
  cases h with
  | text htag => simp [htag]
  | instruction htag => simp [htag]
  | choice htag hlabel hwords => simp [htag, hlabel, Option.filter, hwords]
  | finish htag hends => simp [htag, Node.isEndTrigger, hends]

theorem add_of_misfits {node : Node} {cause : Cause} (h : node.Misfits cause) (page : Page)
    (context : Context) : page.add context node = .error cause := by
  unfold add
  cases h with
  | choice htag hsilent =>
      have hnone :
          (node.attribute? "text").filter (fun text => !Text.allBlank text.toList) = none := by
        rw [Option.filter_eq_none_iff]
        intro label hlabel
        simp [hsilent label hlabel]
      simp only [htag, hnone]
  | event htag => simp [htag]
  | trigger htag hgoes => simp [htag, Node.isEndTrigger, hgoes]
  | other htag =>
      simp only [List.mem_cons, List.not_mem_nil, or_false] at htag
      rcases htag with htag | htag | htag | htag <;> simp [htag]

end Page

/-! ## All children -/

namespace Document

variable {d : Document}

/-- A piece of story loads if all its children that take part have a place on its page. -/
theorem exists_step_of_fitsPage {r : d.Ref} {context : Context}
    (h : ∀ child ∈ d.present r context, (d.node child).FitsPage) :
    ∃ step, (d.loadRoleplay r context).answer = .ok step := by
  have hplace : ∀ child ∈ d.present r context, ∀ page,
      ∃ next, d.placeOnPage (d.contextWithin r context) page child = .ok next := by
    intro child hchild page
    obtain ⟨next, hnext⟩ := Page.exists_add_of_fitsPage (h child hchild) page
      (d.contextWithin r context)
    exact ⟨next, Except.mapError_eq_ok_iff.2 hnext⟩
  obtain ⟨page, hpage⟩ := Except.exists_foldlM_eq_ok hplace Page.empty
  rw [answer_loadRoleplay]
  exact ⟨_, Except.map_eq_ok_iff.2 ⟨page, hpage, rfl⟩⟩

/-- The first child that has no place on the page of a piece of story is to blame. -/
theorem answer_loadRoleplay_of_misfits {r child : d.Ref} {context : Context}
    {before after : List d.Ref} {cause : Cause}
    (hpresent : d.present r context = before ++ child :: after)
    (hbefore : ∀ earlier ∈ before, (d.node earlier).FitsPage)
    (hchild : (d.node child).Misfits cause) :
    (d.loadRoleplay r context).answer = .error (d.faultAt child cause) := by
  rw [answer_loadRoleplay, Except.map_eq_error_iff]
  change (d.present r context).foldlM _ _ = _
  rw [hpresent]
  apply Except.foldlM_eq_error_of_first
  · intro earlier hearlier page
    obtain ⟨next, hnext⟩ := Page.exists_add_of_fitsPage (hbefore earlier hearlier) page
      (d.contextWithin r context)
    exact ⟨next, Except.mapError_eq_ok_iff.2 hnext⟩
  · intro page
    rw [placeOnPage, Page.add_of_misfits hchild]
    rfl

/-- Every child of a piece of story that loads has a place on its page if it takes part. -/
theorem fitsPage_of_loadRoleplay {r child : d.Ref} {context : Context} {step : RoleplayStep}
    (h : (d.loadRoleplay r context).answer = .ok step) (hchild : child ∈ d.present r context) :
    (d.node child).FitsPage := by
  rcases List.forall_or_exists_first (fun child => Node.fitsPage_or_misfits (d.node child))
    (d.present r context) with hfits | ⟨before, misfit, after, hpresent, hbefore, cause, hcause⟩
  · exact hfits child hchild
  · rw [answer_loadRoleplay_of_misfits hpresent hbefore hcause] at h
    cases h

/-- A piece of story loads exactly if each of its children that take part after its state block has
a place on its page. It then shows the paragraphs of its texts and instructions that are not empty,
in order, and leads to the context after its state block. Otherwise the first child without a place
is to blame for what it is: the fault has the code for its kind, and stands where the child does. -/
theorem answer_loadRoleplay_iff (d : Document) (r : d.Ref) (context : Context) :
    ((∃ step, (d.loadRoleplay r context).answer = .ok step) ↔
      ∀ child ∈ d.children r, d.takesPart (d.contextWithin r context) child = true →
        (d.node child).FitsPage) ∧
    (∀ step, (d.loadRoleplay r context).answer = .ok step →
      step.context = d.contextWithin r context ∧
      step.content = (d.children r).flatMap (d.shown (d.contextWithin r context))) ∧
    ∀ fault, (d.loadRoleplay r context).answer = .error fault ↔
      ∃ before child after, d.present r context = before ++ child :: after ∧
        (∀ earlier ∈ before, (d.node earlier).FitsPage) ∧
        (d.node child).Misfits fault.cause ∧ fault.code = (d.tag child).misfitCode ∧
        fault.span = (d.node child).span := by
  refine ⟨?_, ?_, ?_⟩
  · constructor
    · rintro ⟨step, hstep⟩ child hchild hpart
      exact fitsPage_of_loadRoleplay hstep (mem_present.2 ⟨hchild, hpart⟩)
    · intro hfits
      apply exists_step_of_fitsPage
      intro child hchild
      obtain ⟨hmem, hpart⟩ := mem_present.1 hchild
      exact hfits child hmem hpart
  · intro step hstep
    have hcontext := (choices_of_loadRoleplay hstep).1
    exact ⟨hcontext, hcontext ▸ content_of_loadRoleplay hstep⟩
  · intro fault
    constructor
    · intro hfault
      rcases List.forall_or_exists_first (fun child => Node.fitsPage_or_misfits (d.node child))
        (d.present r context) with hfits | ⟨before, child, after, hpresent, hbefore, cause, hcause⟩
      · obtain ⟨step, hstep⟩ := exists_step_of_fitsPage hfits
        cases hfault.symm.trans hstep
      · rw [answer_loadRoleplay_of_misfits hpresent hbefore hcause] at hfault
        cases hfault
        exact ⟨before, child, after, hpresent, hbefore, hcause, hcause.code_eq, rfl⟩
    · rintro ⟨before, child, after, hpresent, hbefore, hcause, -, hspan⟩
      rw [answer_loadRoleplay_of_misfits hpresent hbefore hcause, faultAt, ← hspan]

/-- A choice that is there only by night and says nothing. -/
def whisper : Node :=
  { Node.bare .choice with
    attributes := .ofList [("text", " "), ("condition", "night")]
    span := some ⟨.first, ⟨2, 1⟩⟩ }

theorem misfits_whisper : whisper.Misfits .choiceWithoutText := by
  refine .choice rfl fun label hlabel => ?_
  have htext : whisper.attribute? "text" = some " " := by decide
  rw [htext, Option.some.injEq] at hlabel
  subst hlabel
  decide

/-- An inn with a price that depends on the purse. By night it has a whisper, and an event. -/
def inn : Document :=
  .ofOutline (.branch (.bare .quest) [.branch (.bare .roleplay) [
    .branch { Node.bare .text with
      text := "{{gold = 3}}", markup := "{{gold = 3}}" } [],
    .branch { Node.bare .instruction with
      attributes := .ofList [("condition", "gold > 2")], markup := "Pay {{gold}}." } [],
    .branch whisper [],
    .branch { Node.bare .event with attributes := .ofList [("condition", "night")] } []]])

/-- The card of the inn. -/
def innCard : inn.Ref := ⟨1, by decide +kernel⟩

/-- By day the inn shows its price. By night the whisper, which comes before the event, is to
blame. -/
theorem answer_loadRoleplay_iff_inn :
    (∃ step, (inn.loadRoleplay innCard .empty).answer = .ok step ∧
      step.content = [⟨.instruction, "Pay 3."⟩]) ∧
    ∃ fault, (inn.loadRoleplay innCard (.ofList [("night", .boolean true)])).answer = .error fault ∧
      fault.code = "CHOICE_TEXT_MISSING" ∧ fault.span = whisper.span := by
  obtain ⟨-, hday, -⟩ := answer_loadRoleplay_iff inn innCard .empty
  obtain ⟨-, -, hnight⟩ := answer_loadRoleplay_iff inn innCard (.ofList [("night", .boolean true)])
  constructor
  · have hok : (inn.loadRoleplay innCard .empty).answer.isOk = true := by decide +kernel
    obtain ⟨step, hstep⟩ := Except.isOk_iff.1 hok
    refine ⟨step, hstep, (hday step hstep).2.trans ?_⟩
    decide +kernel
  · have hpresent : inn.present innCard (.ofList [("night", .boolean true)]) =
        [⟨2, by decide +kernel⟩, ⟨3, by decide +kernel⟩] ++
          ⟨4, by decide +kernel⟩ :: [⟨5, by decide +kernel⟩] := by
      decide +kernel
    have hwhisper : inn.node ⟨4, by decide +kernel⟩ = whisper := by decide +kernel
    refine ⟨⟨.choiceWithoutText, whisper.span⟩, (hnight _).2 ⟨_, _, _, hpresent, ?_, ?_⟩, rfl, rfl⟩
    · intro earlier hearlier
      simp only [List.mem_cons, List.not_mem_nil, or_false] at hearlier
      rcases hearlier with rfl | rfl
      · exact .text (by decide +kernel)
      · exact .instruction (by decide +kernel)
    · rw [tag, hwhisper]
      exact ⟨misfits_whisper, rfl, rfl⟩

end Document

end Gamebook
