import Gamebook.Proofs.Play.Roleplay

/-! # What the choice to go on says

A piece of story without choices offers one to go on. Its label foretells whether going on ends the
quest, but looks behind the card in the context before the state block, while play goes on in the
context after it. `tellsTruth_iff_of_loadRoleplay` says when the label is right all the same.
-/

namespace Gamebook.Document

variable {d : Document}

/-- Whether play that goes on beside a node arrives at a trigger that ends the quest. -/
def endAhead (d : Document) (r : d.Ref) (context : Context) : Bool :=
  ((d.followers r).find? (d.takesPart context)).any fun next => (d.node next).isEndTrigger

/-- Going on from a node ends the quest at once: the node holds a trigger that does, or the first
choice number leads to one. -/
def FinishesNext (d : Document) (r : d.Ref) (context : Context) : Prop :=
  d.endsWithin r context = true ∨
    ∃ next, (d.takeChoice r 0 context).answer = .ok (some next) ∧
      (d.node next).isEndTrigger = true

/-- The label of the choice to go on says `End` exactly if going on ends the quest at once. -/
def TellsTruth (d : Document) (r : d.Ref) (step : RoleplayStep) : Prop :=
  step.choices = [⟨"End", 0⟩] ↔ d.FinishesNext r step.context

theorem endAhead_iff {r : d.Ref} {context : Context} :
    d.endAhead r context = true ↔
      ∃ next, (d.followers r).find? (d.takesPart context) = some next ∧
        (d.node next).isEndTrigger = true := by
  rw [endAhead, Option.any_eq_true]

theorem value_endsAfter (r : d.Ref) (outer inner : Context) :
    (d.endsAfter r outer inner).value = (d.endsWithin r inner || d.endAhead r outer) := by
  simp only [endsAfter, Logged.value_bind, value_hasEndTrigger, value_nextSibling]
  rfl

/-- From a node without choices play goes on beside it, unless the node ends the quest itself. -/
theorem finishesNext_iff {r : d.Ref} {context : Context} (hnone : d.choicesIn r context = []) :
    d.FinishesNext r context ↔ d.endsWithin r context = true ∨ d.endAhead r context = true := by
  unfold FinishesNext
  rw [answer_takeChoice, hnone, endAhead_iff]
  cases hends : d.endsWithin r context with
  | true => simp
  | false => simp

theorem goOnText_eq_end_iff {ends : Bool} : goOnText ends = "End" ↔ ends = true := by
  cases ends <;> decide

/-- The label of the choice to go on is that of a card which ends the quest, or behind which the
context before the state block lets a trigger take part that does. -/
theorem choices_eq_end_iff {r : d.Ref} {context : Context} {step : RoleplayStep}
    (h : (d.loadRoleplay r context).answer = .ok step) (hnone : d.choicesIn r step.context = []) :
    step.choices = [⟨"End", 0⟩] ↔
      d.endsWithin r step.context = true ∨ d.endAhead r context = true := by
  have hchoices := (choices_of_loadRoleplay h).2
  rw [hnone] at hchoices
  dsimp only at hchoices
  rw [hchoices, value_endsAfter, List.cons.injEq, Choice.mk.injEq, goOnText_eq_end_iff,
    Bool.or_eq_true]
  simp

/-- A card without choices offers one to go on, which says `End` or `Next`. It says `End` if the
card ends the quest or if what is first behind it in the context before its state block does so;
going on ends the quest in the same way, but in the context after the state block. So the label
tells the truth exactly if the card ends the quest by itself or both contexts agree on whether its
end is next, as they do if the state block leaves the nodes behind the card as they are, or if there
is none. -/
theorem tellsTruth_iff_of_loadRoleplay (d : Document) (r : d.Ref) (context : Context)
    (step : RoleplayStep) (h : (d.loadRoleplay r context).answer = .ok step)
    (hnone : d.choicesIn r step.context = []) :
    (step.choices = [⟨"End", 0⟩] ∨ step.choices = [⟨"Next", 0⟩]) ∧
    (step.choices = [⟨"End", 0⟩] ↔
      d.endsWithin r step.context = true ∨ d.endAhead r context = true) ∧
    (d.FinishesNext r step.context ↔
      d.endsWithin r step.context = true ∨ d.endAhead r step.context = true) ∧
    (d.TellsTruth r step ↔
      d.endsWithin r step.context = true ∨
        d.endAhead r context = d.endAhead r step.context) ∧
    ((∀ follower ∈ d.followers r,
        d.takesPart context follower = d.takesPart step.context follower) →
      d.TellsTruth r step) ∧
    (d.stateBlock r = [] → d.TellsTruth r step) := by
  have hlabel := choices_eq_end_iff h hnone
  have hgoes := finishesNext_iff hnone
  have htruth : d.TellsTruth r step ↔ d.endsWithin r step.context = true ∨
      d.endAhead r context = d.endAhead r step.context := by
    unfold TellsTruth
    rw [hlabel, hgoes]
    cases d.endsWithin r step.context with
    | true => simp
    | false =>
        rw [or_iff_right Bool.false_ne_true, or_iff_right Bool.false_ne_true,
          or_iff_right Bool.false_ne_true]
        exact Bool.eq_iff_iff.symm
  have hsame (hparts : ∀ follower ∈ d.followers r,
      d.takesPart context follower = d.takesPart step.context follower) :
      d.TellsTruth r step := by
    refine htruth.2 (Or.inr ?_)
    rw [endAhead, endAhead, ← List.head?_filter, ← List.head?_filter, List.filter_congr hparts]
  refine ⟨?_, hlabel, hgoes, htruth, hsame, ?_⟩
  · have hchoices := (choices_of_loadRoleplay h).2
    rw [hnone] at hchoices
    dsimp only at hchoices
    rw [hchoices]
    cases (d.endsAfter r context step.context).value with
    | true => exact Or.inl rfl
    | false => exact Or.inr rfl
  · intro hstate
    refine hsame fun follower _ => ?_
    rw [(choices_of_loadRoleplay h).1, contextWithin, updateContext, hstate]
    rfl

/-- A card whose state block opens the gate behind it, where the quest ends. -/
def gate : Document :=
  .ofOutline (.branch (.bare .quest) [
    .branch (.bare .roleplay) [
      .branch ⟨.text, .empty, "{{open = true}}", "", none⟩ []],
    .branch ⟨.trigger, .ofList [("condition", "open")], "end", "end", none⟩ []])

/-- The label says that the quest goes on, but going on ends it. -/
theorem tellsTruth_iff_of_loadRoleplay_gate :
    ∃ step, (gate.loadRoleplay ⟨1, by decide⟩ .empty).answer = .ok step ∧
      gate.choicesIn ⟨1, by decide⟩ step.context = [] ∧ step.choices = [⟨"Next", 0⟩] ∧
      gate.FinishesNext ⟨1, by decide⟩ step.context ∧ ¬ gate.TellsTruth ⟨1, by decide⟩ step := by
  have hload : (gate.loadRoleplay ⟨1, by decide⟩ .empty).answer =
      .ok ⟨none, none, [], [⟨"Next", 0⟩], .ofList [("open", .boolean true)]⟩ :=
    Except.toOption_eq_some_iff.1 (by decide +kernel)
  have hnone : gate.choicesIn ⟨1, by decide⟩ (.ofList [("open", .boolean true)]) = [] := by
    decide +kernel
  have hopen : gate.endAhead ⟨1, by decide⟩ (.ofList [("open", .boolean true)]) = true := by
    decide +kernel
  have hends : gate.endsWithin ⟨1, by decide⟩ (.ofList [("open", .boolean true)]) = false := by
    decide +kernel
  have hshut : gate.endAhead ⟨1, by decide⟩ .empty = false := by
    decide +kernel
  obtain ⟨-, -, hgoes, htruth, -, -⟩ :=
    tellsTruth_iff_of_loadRoleplay gate ⟨1, by decide⟩ .empty _ hload hnone
  refine ⟨_, hload, hnone, rfl, hgoes.2 (Or.inr hopen), ?_⟩
  intro htells
  rcases htruth.1 htells with hwithin | hsame
  · cases hends.symm.trans hwithin
  · cases hshut.symm.trans (hsame.trans hopen)

end Gamebook.Document
