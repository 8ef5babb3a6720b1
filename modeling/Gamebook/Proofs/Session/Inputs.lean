import Gamebook.Proofs.Play.Roleplay

/-! # What inputs do to a session

A choice or the outcome of a combat leads to a node, from which triggers are followed.
`choose_eq_ok_iff` and `resolveCombat_eq_ok_iff` say when an input succeeds and what session it
leads to, and `concernsWay_of_choose` how a choice that is offered can still fail.
-/

namespace Gamebook

namespace Document

variable {d : Document}

theorem concernsWay_of_followTriggers {hops : Nat} {node : Option d.Ref} {fault : Fault}
    (h : d.followTriggers hops node = .error fault) : fault.cause.concernsWay = true := by
  fun_induction followTriggers d hops node with
  | case1 =>
      cases h
      rfl
  | case2 => cases h
  | case3 hops r htag cause hload =>
      cases h
      exact concernsWay_of_loadTrigger hload
  | case4 hops r htag trigger hload hkind ih => exact ih h
  | case5 hops r htag trigger hload hkind ih => exact ih h
  | case6 => cases h

end Document

namespace Session

variable {session : Session}

/-- A choice that takes part is resolved; past the last one play ends or falls through. -/
theorem answer_afterChoice (r : session.document.Ref) (index : Nat) (context : Context) :
    (session.afterChoice r index context).answer =
      match (session.document.choicesIn r context)[index]? with
      | some choice => (session.document.resolveBranch choice context).answer.map some
      | none =>
        .ok (if session.document.endsWithin r context then none
          else (session.document.fallThrough r context).value) := by
  rw [afterChoice, Play.answer_bind, Document.answer_takeChoice]
  cases (session.document.choicesIn r context)[index]? with
  | some choice =>
      dsimp only
      cases (session.document.resolveBranch choice context).answer <;> rfl
  | none =>
      -- Falling through is asked for only where the card does not end the quest.
      cases hends : session.document.endsWithin r context with
      | true => simp [Except.bind, hends]
      | false =>
          rw [Document.value_fallThrough]
          cases hnext : (session.document.followers r).find?
              (session.document.takesPart context) with
          | some next => simp [Except.bind]
          | none =>
              simp only [Except.bind, Bool.false_eq_true, if_false, Play.answer_bind,
                Play.answer_liftM, Document.value_hasEndTrigger, hends]
              rw [Document.value_fallThrough, hnext]

theorem expect_eq_ok_iff {tag : Tag} {cause : Tag → Cause} {r : session.document.Ref} :
    session.expect tag cause = .ok r ↔ session.node = some r ∧ session.document.tag r = tag := by
  unfold expect
  split
  next h => simp [h]
  next current h =>
    rw [h, Option.some.injEq]
    split
    next htag =>
      constructor
      · intro heq
        cases heq
        exact ⟨rfl, htag⟩
      · rintro ⟨rfl, -⟩
        rfl
    next htag =>
      constructor
      · intro heq
        cases heq
      · rintro ⟨rfl, htag'⟩
        exact absurd htag' htag

/-- A choice succeeds if the session is at a piece of story that loads and offers it, and the way
from it leads somewhere. -/
theorem choose_eq_ok_iff {index : Nat} {next : Session} :
    (session.choose index).answer = .ok next ↔
      ∃ r step onward node, session.node = some r ∧ session.document.tag r = .roleplay ∧
        (session.document.loadRoleplay r session.context).answer = .ok step ∧
        index < step.choices.length ∧
        (session.afterChoice r index step.context).answer = .ok onward ∧
        session.document.followTriggers maxTriggers onward = .ok node ∧
        { session with node := node, context := step.context } = next := by
  simp only [choose, Play.answer_bind, Play.answer_ofExcept, Play.answer_ite, Play.answer_throw,
    Except.bind_eq_ok_iff, expect_eq_ok_iff]
  constructor
  · rintro ⟨r, ⟨hnode, htag⟩, step, hload, h⟩
    split at h
    · cases h
    next hlt =>
      simp only [Except.bind_eq_ok_iff] at h
      obtain ⟨onward, honward, node, hfollow, -, -, h⟩ := h
      cases h
      exact ⟨r, step, onward, node, hnode, htag, hload, Nat.lt_of_not_le hlt, honward, hfollow, rfl⟩
  · rintro ⟨r, step, onward, node, hnode, htag, hload, hlt, honward, hfollow, rfl⟩
    refine ⟨r, ⟨hnode, htag⟩, step, hload, ?_⟩
    rw [if_neg (Nat.not_le_of_lt hlt)]
    simp only [Except.bind_eq_ok_iff]
    exact ⟨onward, honward, node, hfollow, ⟨⟩, rfl, rfl⟩

/-- What is chosen of a piece of story that loads. -/
theorem answer_choose_of_load {index : Nat} {r : session.document.Ref} {step : RoleplayStep}
    (hnode : session.node = some r) (htag : session.document.tag r = .roleplay)
    (hload : (session.document.loadRoleplay r session.context).answer = .ok step) :
    (session.choose index).answer =
      if step.choices.length ≤ index then
        .error (.ofCause (.choiceOutOfRange index step.choices.length))
      else
        (session.afterChoice r index step.context).answer.bind fun onward =>
          (session.document.followTriggers maxTriggers onward).map fun node =>
            { session with node := node, context := step.context } := by
  simp only [choose, Play.answer_bind, Play.answer_ofExcept, Play.answer_ite, Play.answer_throw,
    expect_eq_ok_iff.2 ⟨hnode, htag⟩, hload, Except.bind]
  split
  · rfl
  · cases (session.afterChoice r index step.context).answer with
    | error fault => rfl
    | ok onward =>
        cases session.document.followTriggers maxTriggers onward <;> simp [Except.map]

/-- A choice that is offered fails only on the way from it. -/
theorem concernsWay_of_choose {index : Nat} {r : session.document.Ref} {step : RoleplayStep}
    (hnode : session.node = some r) (htag : session.document.tag r = .roleplay)
    (hload : (session.document.loadRoleplay r session.context).answer = .ok step)
    (hlt : index < step.choices.length) {fault : Fault}
    (h : (session.choose index).answer = .error fault) : fault.cause.concernsWay = true := by
  rw [answer_choose_of_load hnode htag hload, if_neg (Nat.not_le_of_lt hlt),
    Except.bind_eq_error_iff] at h
  rcases h with h | ⟨onward, -, h⟩
  · rw [answer_afterChoice] at h
    cases hchoice : (session.document.choicesIn r step.context)[index]? with
    | none =>
        rw [hchoice] at h
        cases h
    | some choice =>
        rw [hchoice] at h
        exact Document.concernsWay_of_resolveBranch (Except.map_eq_error_iff.1 h)
  · exact Document.concernsWay_of_followTriggers (Except.map_eq_error_iff.1 h)

/-- An outcome succeeds if the session is at a combat that loads, an event for it is found and can
be read, and the way from it leads somewhere. -/
theorem resolveCombat_eq_ok_iff {name : String} {parameters : EventParameters} {next : Session} :
    (session.resolveCombat name).answer = .ok (parameters, next) ↔
      ∃ r step event onward node, session.node = some r ∧ session.document.tag r = .combat ∧
        (session.document.loadCombat session.encounters r session.context).answer = .ok step ∧
        (session.document.eventsFor r name).find? (session.document.takesPart session.context) =
          some event ∧
        (session.document.node event).eventParameters = .ok parameters ∧
        (session.document.resolveBranch event session.context).answer = .ok onward ∧
        session.document.followTriggers maxTriggers (some onward) = .ok node ∧
        { session with node := node } = next := by
  simp only [resolveCombat, Play.answer_bind, Play.answer_ofExcept, Except.bind_eq_ok_iff,
    expect_eq_ok_iff, Document.answer_eventParameters, Document.answer_takeEvent,
    Document.answer_findEvent_eq_ok_iff, Except.mapError_eq_ok_iff]
  constructor
  · rintro ⟨r, ⟨hnode, htag⟩, step, hload, found, ⟨event, hfind, hread⟩, onward,
      ⟨event', hfind', honward⟩, node, hfollow, -, -, h⟩
    cases h
    rw [hfind, Option.some.injEq] at hfind'
    subst hfind'
    exact ⟨r, step, event, onward, node, hnode, htag, hload, hfind, hread, honward, hfollow, rfl⟩
  · rintro ⟨r, step, event, onward, node, hnode, htag, hload, hfind, hread, honward, hfollow, rfl⟩
    exact ⟨r, ⟨hnode, htag⟩, step, hload, parameters, ⟨event, hfind, hread⟩, onward,
      ⟨event, hfind, honward⟩, node, hfollow, ⟨⟩, rfl, rfl⟩

/-- What comes of an outcome of a combat that loads. -/
theorem answer_resolveCombat_of_load {name : String} {r : session.document.Ref}
    {step : CombatStep} (hnode : session.node = some r)
    (htag : session.document.tag r = .combat)
    (hload : (session.document.loadCombat session.encounters r session.context).answer =
      .ok step) :
    (session.resolveCombat name).answer =
      (session.document.eventParameters r name session.context).answer.bind fun parameters =>
        (session.document.takeEvent r name session.context).answer.bind fun next =>
          (session.document.followTriggers maxTriggers (some next)).map fun node =>
            (parameters, { session with node := node }) := by
  simp only [resolveCombat, Play.answer_bind, Play.answer_ofExcept,
    expect_eq_ok_iff.2 ⟨hnode, htag⟩, hload, Except.bind]
  cases (session.document.eventParameters r name session.context).answer with
  | error fault => rfl
  | ok parameters =>
      cases (session.document.takeEvent r name session.context).answer with
      | error fault => rfl
      | ok next =>
          dsimp only
          cases session.document.followTriggers maxTriggers (some next) <;> rfl

end Session

end Gamebook
