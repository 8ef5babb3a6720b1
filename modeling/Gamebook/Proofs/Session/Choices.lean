import Gamebook.Proofs.Session.Inputs

/-! # Choices that are shown and choices that are taken

A piece of story numbers its choices when it is shown, and again when one of them is taken.
`choices_shown_are_taken` says that the two agree: the number beside a choice takes that choice, and
no other number is taken at all.
-/

namespace Gamebook

open Document

/-- A number is out of range for the choices of a piece of story that loads exactly if it stands
beside none of them. -/
theorem Session.code_choose_iff {session : Session} {r : session.document.Ref}
    {step : RoleplayStep} (hnode : session.node = some r)
    (htag : session.document.tag r = .roleplay)
    (hload : (session.document.loadRoleplay r session.context).answer = .ok step) (index : Nat) :
    (∃ fault, (session.choose index).answer = .error fault ∧
        fault.code = "SESSION_CHOICE_OUT_OF_RANGE") ↔
      ∀ choice ∈ step.choices, choice.index ≠ index := by
  have hnumber := exists_index_iff_lt hload index
  constructor
  · rintro ⟨fault, hfault, hcode⟩ choice hmem heq
    have hlt := hnumber.1 ⟨choice, hmem, heq⟩
    have hway := Cause.code_mem_of_concernsWay (concernsWay_of_choose hnode htag hload hlt hfault)
    rw [← Fault.code, hcode] at hway
    exact absurd hway (by decide)
  · intro hnone
    have hle : step.choices.length ≤ index := by
      refine Nat.le_of_not_lt fun hlt => ?_
      obtain ⟨choice, hmem, heq⟩ := hnumber.2 hlt
      exact hnone choice hmem heq
    refine ⟨.ofCause (.choiceOutOfRange index step.choices.length), ?_, rfl⟩
    rw [answer_choose_of_load hnode htag hload, if_pos hle]

/-- What is shown of a piece of story is what can be taken. -/
theorem choices_shown_are_taken (d : Document) (r : d.Ref) (context : Context)
    (step : RoleplayStep) (h : (d.loadRoleplay r context).answer = .ok step) :
    (d.choicesIn r step.context ≠ [] →
      step.choices.length = (d.choicesIn r step.context).length ∧
      ∀ i choice, (d.choicesIn r step.context)[i]? = some choice →
        (∃ text, (d.node choice).attribute? "text" = some text ∧
          step.choices[i]? = some ⟨Content.render step.context text, i⟩) ∧
        (d.takeChoice r i step.context).answer =
          (d.resolveBranch choice step.context).answer.map some) ∧
    (d.choicesIn r step.context = [] → ∃ text, step.choices = [⟨text, 0⟩]) ∧
    ∀ encounters index, d.tag r = .roleplay →
      ((∃ fault, (Session.choose ⟨d, encounters, some r, context⟩ index).answer = .error fault ∧
          fault.code = "SESSION_CHOICE_OUT_OF_RANGE") ↔
        ∀ choice ∈ step.choices, choice.index ≠ index) := by
  have hchoices := (choices_of_loadRoleplay h).2
  refine ⟨?_, ?_, ?_⟩
  · intro hne
    have hshown : step.choices = (d.choicesIn r step.context).zipIdx.map fun choice =>
        ⟨d.label step.context choice.1, choice.2⟩ := by
      rw [hchoices]
      split
      next hnil => exact absurd hnil hne
      next => rfl
    refine ⟨by rw [hshown, List.length_map, List.length_zipIdx], ?_⟩
    intro i choice hi
    obtain ⟨text, htext, hlabel⟩ := label_of_loadRoleplay h (List.mem_of_getElem? hi)
    refine ⟨⟨text, htext, ?_⟩, ?_⟩
    · rw [hshown, List.getElem?_map, List.getElem?_zipIdx, hi, ← hlabel, Option.map_some,
        Option.map_some, Nat.zero_add]
    · rw [answer_takeChoice, hi]
  · intro hnil
    rw [hnil] at hchoices
    exact ⟨_, hchoices⟩
  · intro encounters index htag
    exact @Session.code_choose_iff ⟨d, encounters, some r, context⟩ r step rfl htag h index

/-- A piece of story with a choice that takes part only with a key, and one that always does. -/
def doors : Document :=
  .ofOutline (.branch (.bare .quest) [.branch (.bare .roleplay) [
    .branch ⟨.choice, .ofList [("text", "Left"), ("condition", "key")], "", "", none⟩ [],
    .branch ⟨.choice, .ofList [("text", "Right")], "", "", none⟩ [
      .branch ⟨.trigger, .empty, "end", "end", none⟩ []]]])

/-- Without the key only the right door is shown, and the number that it is shown with leads through
it. -/
theorem choices_shown_are_taken_doors :
    ∃ step, (doors.loadRoleplay ⟨1, by decide⟩ .empty).answer = .ok step ∧
      step.choices = [⟨"Right", 0⟩] ∧
      (doors.takeChoice ⟨1, by decide⟩ 0 step.context).answer =
        (doors.resolveBranch ⟨3, by decide⟩ step.context).answer.map some ∧
      ∀ encounters index,
        ((∃ fault, (Session.choose ⟨doors, encounters, some ⟨1, by decide⟩, .empty⟩ index).answer =
            .error fault ∧ fault.code = "SESSION_CHOICE_OUT_OF_RANGE") ↔
          ∀ choice ∈ step.choices, choice.index ≠ index) := by
  have hpage : (doors.loadRoleplay ⟨1, by decide⟩ .empty).answer.toOption.any (fun step =>
      decide (step.choices = [⟨"Right", 0⟩] ∧
        doors.choicesIn ⟨1, by decide⟩ step.context = [⟨3, by decide⟩])) = true := by
    decide +kernel
  obtain ⟨step, hstep, hpage⟩ := (Option.any_eq_true _ _).1 hpage
  obtain ⟨hright, hin⟩ := of_decide_eq_true hpage
  have h := Except.toOption_eq_some_iff.1 hstep
  obtain ⟨hshown, -, hrange⟩ := choices_shown_are_taken doors ⟨1, by decide⟩ .empty step h
  refine ⟨step, h, hright, ?_, fun encounters index => hrange encounters index rfl⟩
  rw [hin] at hshown
  exact ((hshown (List.cons_ne_nil _ _)).2 0 _ rfl).2

end Gamebook
