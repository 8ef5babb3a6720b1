import Gamebook.Proofs.Play.Levels
import Gamebook.Proofs.Session.Calls

/-! # How a choice ends the quest

A choice ends the quest if a trigger does so, in the branch that it takes, within the card or behind
it, or if nothing is left behind the card at any level (`isEnded_choose_iff`). As long as something
is left there, play goes on with it.
-/

namespace Gamebook

namespace Document

variable {d : Document}

/-- Gotos, none or several of them, lead from a node to a trigger that ends the quest. -/
inductive LeadsToEnd (d : Document) : d.Ref → Prop where
  | finish {r : d.Ref} (hend : (d.node r).isEndTrigger = true) : LeadsToEnd d r
  | hop {r next : d.Ref} (htag : d.tag r = .trigger) (hload : d.loadTrigger r = .ok ⟨next, .goto⟩)
      (hrest : LeadsToEnd d next) : LeadsToEnd d r

theorem isEndTrigger_iff {r : d.Ref} :
    (d.node r).isEndTrigger = true ↔ d.tag r = .trigger ∧ d.loadTrigger r = .ok ⟨r, .finish⟩ := by
  have htag : (d.node r).tag = d.tag r := rfl
  rw [Node.isEndTrigger, Bool.and_eq_true, beq_iff_eq, beq_iff_eq, htag]
  refine and_congr_right fun _ => ?_
  unfold loadTrigger
  dsimp only
  split
  next hend => simp [hend]
  next hend =>
    refine iff_of_false hend ?_
    split
    · simp
    · split <;> simp

theorem tag_eq_trigger_of_leadsToEnd {r : d.Ref} (h : d.LeadsToEnd r) : d.tag r = .trigger := by
  cases h with
  | finish hend => exact (isEndTrigger_iff.1 hend).1
  | hop htag _ _ => exact htag

/-- When triggers have been followed, the quest has ended exactly if they lead to its end. -/
theorem eq_none_iff_leadsToEnd {hops : Nat} {r : d.Ref} {node : Option d.Ref}
    (h : d.followTriggers hops (some r) = .ok node) : node = none ↔ d.LeadsToEnd r := by
  induction hops generalizing r with
  | zero => cases h
  | succ hops ih =>
      unfold followTriggers at h
      split at h
      next htag =>
        cases hload : d.loadTrigger r with
        | error fault =>
            rw [hload] at h
            cases h
        | ok trigger =>
            obtain ⟨target, kind⟩ := trigger
            rw [hload] at h
            cases kind with
            | finish =>
                refine iff_of_true (followTriggers_none h) (.finish (isEndTrigger_iff.2 ⟨htag, ?_⟩))
                rw [hload, target_of_loadTrigger_finish hload]
            | goto =>
                refine (ih h).trans ⟨.hop htag hload, ?_⟩
                intro hleads
                cases hleads with
                | finish hend =>
                    have hfinish := (isEndTrigger_iff.1 hend).2
                    rw [hload] at hfinish
                    cases hfinish
                | hop _ hload' hrest =>
                    rw [hload] at hload'
                    cases hload'
                    exact hrest
      next htag =>
        cases h
        refine iff_of_false (by simp) ?_
        intro hleads
        exact htag (tag_eq_trigger_of_leadsToEnd hleads)

/-- The ways in which the choice with a number ends the quest, in the context that it is made in. -/
inductive Ending (d : Document) (r : d.Ref) (context : Context) (index : Nat) : Prop where
  | branch {choice target : d.Ref} (hchoice : (d.choicesIn r context)[index]? = some choice)
      (hresolve : (d.resolveBranch choice context).answer = .ok target)
      (hend : d.LeadsToEnd target) : Ending d r context index
  | within (hnone : d.choicesIn r context = []) (hends : d.endsWithin r context = true) :
      Ending d r context index
  | behind {target : d.Ref} (hnone : d.choicesIn r context = [])
      (hends : d.endsWithin r context = false) (honward : d.onward? r context = some target)
      (hend : d.LeadsToEnd target) : Ending d r context index
  | exhausted (hnone : d.choicesIn r context = []) (hends : d.endsWithin r context = false)
      (hleft : ∀ level ∈ d.levels r, ∀ follower ∈ d.followers level,
        d.takesPart context follower = false) : Ending d r context index

theorem ending_iff_of_choice {r choice target : d.Ref} {context : Context} {index : Nat}
    (hchoice : (d.choicesIn r context)[index]? = some choice)
    (hresolve : (d.resolveBranch choice context).answer = .ok target) :
    d.Ending r context index ↔ d.LeadsToEnd target := by
  have hne : d.choicesIn r context ≠ [] := by
    intro hnone
    simp [hnone] at hchoice
  refine ⟨?_, .branch hchoice hresolve⟩
  intro hending
  cases hending with
  | branch hchoice' hresolve' hend =>
      rw [hchoice, Option.some.injEq] at hchoice'
      subst hchoice'
      rw [hresolve, Except.ok.injEq] at hresolve'
      rwa [hresolve']
  | within hnone => exact absurd hnone hne
  | behind hnone => exact absurd hnone hne
  | exhausted hnone => exact absurd hnone hne

theorem ending_iff_of_onward {r : d.Ref} {context : Context} {index : Nat}
    (hnone : d.choicesIn r context = []) (hends : d.endsWithin r context = false) :
    d.Ending r context index ↔
      ∀ target, d.onward? r context = some target → d.LeadsToEnd target := by
  constructor
  · intro hending target honward
    cases hending with
    | branch hchoice => simp [hnone] at hchoice
    | within _ hends' => cases hends.symm.trans hends'
    | behind _ _ honward' hend =>
        rw [honward, Option.some.injEq] at honward'
        rwa [honward']
    | exhausted _ _ hleft =>
        rw [onward?_eq_none_iff.2 hleft] at honward
        cases honward
  · intro hend
    cases honward : d.onward? r context with
    | none => exact .exhausted hnone hends (onward?_eq_none_iff.1 honward)
    | some target => exact .behind hnone hends honward (hend target honward)

end Document

namespace Session

open Document

variable {d : Document} {table : Encounters} {r : d.Ref} {context : Context} {index : Nat}
  {next : Session}

/-- What a choice that succeeds leads to: the branch of a choice that takes part, or else the way
onward from a card that has none. -/
theorem onward_of_choose (h : (choose ⟨d, table, some r, context⟩ index).answer = .ok next) :
    ∃ onward node, d.followTriggers maxTriggers onward = .ok node ∧
      next = ⟨d, table, node, d.contextWithin r context⟩ ∧
      ((∃ choice target, (d.choicesIn r (d.contextWithin r context))[index]? = some choice ∧
          (d.resolveBranch choice (d.contextWithin r context)).answer = .ok target ∧
          onward = some target) ∨
        d.choicesIn r (d.contextWithin r context) = [] ∧
          onward = if d.endsWithin r (d.contextWithin r context) then none
            else d.onward? r (d.contextWithin r context)) := by
  obtain ⟨_, step, onward, node, hnode, -, hload, hlt, honward, hfollow, rfl⟩ :=
    choose_eq_ok_iff.1 h
  cases hnode
  have hempty := @choicesIn_eq_nil_of_lt d r context step hload index hlt
  rw [answer_afterChoice] at honward
  rw [(choices_of_loadRoleplay hload).1] at hempty honward ⊢
  dsimp only at honward
  refine ⟨onward, node, hfollow, rfl, ?_⟩
  cases hchoice : (d.choicesIn r (d.contextWithin r context))[index]? with
  | some choice =>
      rw [hchoice] at honward
      obtain ⟨target, hresolve, rfl⟩ := Except.map_eq_ok_iff.1 honward
      exact Or.inl ⟨choice, target, rfl, hresolve, rfl⟩
  | none =>
      rw [hchoice] at honward
      refine Or.inr ⟨hempty hchoice, ?_⟩
      rw [← value_fallThrough_eq]
      exact (Except.ok.inj honward).symm

/-- A choice that succeeds ends the quest exactly in one of the four ways of an ending. If the card
has no choice and does not end the quest, and something is left at one of its levels, then play goes
on at the first that is left, and the quest only ends if triggers lead from there to its end. -/
theorem isEnded_choose_iff (d : Document) (table : Encounters) (r : d.Ref) (context : Context)
    (index : Nat) (next : Session)
    (h : (choose ⟨d, table, some r, context⟩ index).answer = .ok next) :
    (next.isEnded = true ↔ d.Ending r (d.contextWithin r context) index) ∧
    (d.choicesIn r (d.contextWithin r context) = [] →
      d.endsWithin r (d.contextWithin r context) = false →
      (∃ level ∈ d.levels r, ∃ follower ∈ d.followers level,
        d.takesPart (d.contextWithin r context) follower = true) →
      ∃ target, d.onward? r (d.contextWithin r context) = some target ∧
        (next.isEnded = true ↔ d.LeadsToEnd target)) := by
  obtain ⟨onward, node, hfollow, rfl, hcases⟩ := onward_of_choose h
  generalize d.contextWithin r context = inner at hcases ⊢
  have hended : isEnded ⟨d, table, node, inner⟩ = true ↔ node = none := Option.isNone_iff_eq_none
  rw [hended]
  rcases hcases with ⟨choice, target, hchoice, hresolve, rfl⟩ | ⟨hnone, honward⟩
  · refine ⟨(eq_none_iff_leadsToEnd hfollow).trans (ending_iff_of_choice hchoice hresolve).symm, ?_⟩
    intro hnone
    simp [hnone] at hchoice
  · cases hends : d.endsWithin r inner with
    | true =>
        rw [hends, if_pos rfl] at honward
        subst honward
        exact ⟨iff_of_true (followTriggers_none hfollow) (.within hnone hends), by simp⟩
    | false =>
        rw [hends, if_neg Bool.false_ne_true] at honward
        subst honward
        have hending := @ending_iff_of_onward d r inner index hnone hends
        cases honward : d.onward? r inner with
        | none =>
            rw [honward] at hfollow hending
            refine ⟨iff_of_true (followTriggers_none hfollow) (hending.2 (by simp)), ?_⟩
            rintro - - ⟨level, hlevel, follower, hfollower, hpart⟩
            rw [onward?_eq_none_iff.1 honward level hlevel follower hfollower] at hpart
            cases hpart
        | some target =>
            rw [honward] at hfollow hending
            have hended := eq_none_iff_leadsToEnd hfollow
            refine ⟨hended.trans (hending.trans (by simp)).symm, fun _ _ _ => ⟨target, rfl, hended⟩⟩

/-- A piece of story with another one in its only branch, and behind it a trigger that goes past a
third to the end. -/
def detour : Document :=
  .ofOutline (.branch (.bare .quest) [
    .branch (.bare .roleplay) [
      .branch ⟨.choice, .ofList [("text", "Wait")], "", "", none⟩ [.branch (.bare .roleplay) []]],
    .branch ⟨.trigger, .empty, "goto out", "", none⟩ [],
    .branch (.bare .roleplay) [],
    .branch ⟨.trigger, .ofList [("id", "out")], "end", "", none⟩ []])

/-- Going on from the inner piece of story, which has nothing behind it, leads to the trigger behind
the outer one, and that to the end. -/
theorem isEnded_choose_iff_detour :
    ∃ next, (choose ⟨detour, .empty, some ⟨3, by decide⟩, .empty⟩ 0).answer = .ok next ∧
      next.isEnded = true ∧ detour.onward? ⟨3, by decide⟩ .empty = some ⟨4, by decide⟩ := by
  have hinner : detour.contextWithin ⟨3, by decide⟩ .empty = .empty := by decide +kernel
  have hnone : detour.choicesIn ⟨3, by decide⟩ .empty = [] := by decide +kernel
  have hends : detour.endsWithin ⟨3, by decide⟩ .empty = false := by decide +kernel
  have honward : detour.onward? ⟨3, by decide⟩ .empty = some ⟨4, by decide⟩ := by decide +kernel
  have hload : detour.loadTrigger ⟨4, by decide⟩ = .ok ⟨⟨6, by decide⟩, .goto⟩ :=
    Except.toOption_eq_some_iff.1 (by decide +kernel)
  have hend : detour.LeadsToEnd ⟨4, by decide⟩ :=
    .hop (by decide +kernel) hload (.finish (by decide +kernel))
  have hok : (choose ⟨detour, .empty, some ⟨3, by decide⟩, .empty⟩ 0).answer.isOk = true := by
    decide +kernel
  obtain ⟨next, hnext⟩ := Except.isOk_iff.1 hok
  have hiff := isEnded_choose_iff detour .empty ⟨3, by decide⟩ .empty 0 next hnext
  rw [hinner] at hiff
  exact ⟨next, hnext, hiff.1.2 (.behind hnone hends honward hend), honward⟩

end Session

end Gamebook
