import Gamebook.Proofs.Play.Combat
import Gamebook.Proofs.Session.Inputs

/-! # Combats that are shown and outcomes that are taken

A combat is shown if it has an event for each outcome that takes part within its state block. The
event that an outcome takes is looked up in the context of the session instead, which the state
block leaves alone. `provides_iff_of_loadCombat` says when the two agree.
-/

namespace Gamebook

open Document

/-- A way that fails does not fail for want of an event. -/
theorem Cause.code_ne_of_concernsWay {cause : Cause} (h : cause.concernsWay = true) :
    cause.code ≠ "EVENT_NOT_FOUND" := by
  intro hcode
  have hway := code_mem_of_concernsWay h
  rw [hcode] at hway
  exact absurd hway (by decide)

/-- What an event gives can only be unreadable. -/
theorem Node.code_ne_of_eventParameters {node : Node} {cause : Cause}
    (h : node.eventParameters = .error cause) : cause.code ≠ "EVENT_NOT_FOUND" := by
  unfold eventParameters at h
  dsimp only at h
  split at h
  · cases h
  · split at h
    · cases h
    · cases h
      simp [Cause.code]

namespace Document

/-- A combat provides for an outcome: the look-ups of what the outcome gives and of where it leads
do not miss, and the event that they pick takes part within the combat. -/
structure Provides (d : Document) (r : d.Ref) (name : String) (context : Context) : Prop where
  parameters : ∀ fault, (d.eventParameters r name context).answer = .error fault →
    fault.code ≠ "EVENT_NOT_FOUND"
  way : ∀ fault, (d.takeEvent r name context).answer = .error fault →
    fault.code ≠ "EVENT_NOT_FOUND"
  picked : ∀ event, (d.findEvent r name context).answer = .ok event →
    d.takesPart (d.contextWithin r context) event = true

variable {d : Document}

/-- A combat provides for an outcome exactly if the first event for it that takes part in the
context that play has exists, and takes part within the combat as well. -/
theorem provides_iff {r : d.Ref} {name : String} {context : Context} :
    d.Provides r name context ↔
      ∃ event, (d.eventsFor r name).find? (d.takesPart context) = some event ∧
        d.takesPart (d.contextWithin r context) event = true := by
  constructor
  · rintro ⟨hparameters, -, hpicked⟩
    cases hfind : (d.eventsFor r name).find? (d.takesPart context) with
    | some event => exact ⟨event, rfl, hpicked event (answer_findEvent_eq_ok_iff.2 hfind)⟩
    | none =>
        refine absurd rfl (hparameters (d.faultAt r (.missingEvent name)) ?_)
        rw [answer_eventParameters, answer_findEvent, hfind]
        rfl
  · rintro ⟨event, hfind, hwithin⟩
    have hfound := answer_findEvent_eq_ok_iff.2 hfind
    refine ⟨?_, ?_, ?_⟩
    · intro fault hfault
      rw [answer_eventParameters, hfound] at hfault
      obtain ⟨cause, hcause, rfl⟩ := Except.mapError_eq_error_iff.1 hfault
      exact Node.code_ne_of_eventParameters hcause
    · intro fault hfault
      rw [answer_takeEvent, hfound] at hfault
      exact Cause.code_ne_of_concernsWay (concernsWay_of_resolveBranch hfault)
    · intro other hother
      rw [answer_findEvent_eq_ok_iff, hfind, Option.some.injEq] at hother
      rwa [← hother]

/-- A card without a state block leaves the context as it is. -/
theorem contextWithin_of_stateBlock_eq_nil {r : d.Ref} (h : d.stateBlock r = [])
    (context : Context) : d.contextWithin r context = context := by
  rw [contextWithin, updateContext, h]
  rfl

end Document

namespace Session

/-- An outcome of a combat that loads misses its event exactly if no event for it takes part. -/
theorem code_resolveCombat_iff {session : Session} {r : session.document.Ref} {step : CombatStep}
    (hnode : session.node = some r) (htag : session.document.tag r = .combat)
    (hload : (session.document.loadCombat session.encounters r session.context).answer = .ok step)
    (name : String) :
    (∃ fault, (session.resolveCombat name).answer = .error fault ∧
        fault.code = "EVENT_NOT_FOUND") ↔
      ∀ event ∈ session.document.eventsFor r name,
        session.document.takesPart session.context event = false := by
  rw [answer_resolveCombat_of_load hnode htag hload]
  constructor
  · rintro ⟨fault, hfault, hcode⟩ event hmem
    cases hfind : (session.document.eventsFor r name).find?
        (session.document.takesPart session.context) with
    | none => exact Bool.eq_false_iff.2 (List.find?_eq_none.1 hfind event hmem)
    | some first =>
        exfalso
        have hfound := answer_findEvent_eq_ok_iff.2 hfind
        rw [answer_eventParameters, answer_takeEvent, hfound] at hfault
        rcases Except.bind_eq_error_iff.1 hfault with hread | ⟨parameters, -, hfault⟩
        · obtain ⟨cause, hcause, rfl⟩ := Except.mapError_eq_error_iff.1 hread
          exact Node.code_ne_of_eventParameters hcause hcode
        · refine Cause.code_ne_of_concernsWay ?_ hcode
          rcases Except.bind_eq_error_iff.1 hfault with hway | ⟨next, -, hfollow⟩
          · exact concernsWay_of_resolveBranch hway
          · exact concernsWay_of_followTriggers (Except.map_eq_error_iff.1 hfollow)
  · intro hnone
    have hfind : (session.document.eventsFor r name).find?
        (session.document.takesPart session.context) = none :=
      List.find?_eq_none.2 fun event hmem => by rw [hnone event hmem]; exact Bool.false_ne_true
    refine ⟨session.document.faultAt r (.missingEvent name), ?_, rfl⟩
    rw [answer_eventParameters, answer_findEvent, hfind]
    rfl

/-- For each outcome a combat that is shown has an event which takes part within its state block.
It provides for the outcome exactly if the first event for it that takes part in the context of play
is such an event, and so it does if the state block leaves the events for the outcome as they are,
or if there is none. Play misses the event exactly if no event for the outcome takes part. -/
theorem provides_iff_of_loadCombat (d : Document) (table : Encounters) (r : d.Ref)
    (context : Context) (step : CombatStep)
    (h : (d.loadCombat table r context).answer = .ok step) (outcome : Outcome) :
    (∃ event ∈ d.eventsFor r outcome.name, d.takesPart (d.contextWithin r context) event = true) ∧
    (d.Provides r outcome.name context ↔
      ∃ event, (d.eventsFor r outcome.name).find? (d.takesPart context) = some event ∧
        d.takesPart (d.contextWithin r context) event = true) ∧
    ((∀ event ∈ d.eventsFor r outcome.name,
        d.takesPart context event = d.takesPart (d.contextWithin r context) event) →
      d.Provides r outcome.name context) ∧
    (d.stateBlock r = [] → d.Provides r outcome.name context) ∧
    (d.tag r = .combat →
      ((∃ fault, (resolveCombat ⟨d, table, some r, context⟩ outcome.name).answer = .error fault ∧
          fault.code = "EVENT_NOT_FOUND") ↔
        ∀ event ∈ d.eventsFor r outcome.name, d.takesPart context event = false)) := by
  have hcounted := exists_event_of_loadCombat h outcome
  have hsame (hparts : ∀ event ∈ d.eventsFor r outcome.name,
      d.takesPart context event = d.takesPart (d.contextWithin r context) event) :
      d.Provides r outcome.name context := by
    obtain ⟨event, hmem, hwithin⟩ := hcounted
    -- The event that was counted takes part outside as well, so the look-up cannot miss.
    cases hfind : (d.eventsFor r outcome.name).find? (d.takesPart context) with
    | none =>
        refine absurd ?_ (List.find?_eq_none.1 hfind event hmem)
        rw [hparts event hmem, hwithin]
    | some first =>
        refine provides_iff.2 ⟨first, hfind, ?_⟩
        rw [← hparts first (List.mem_of_find?_eq_some hfind)]
        exact List.find?_some hfind
  refine ⟨hcounted, provides_iff, hsame, ?_, ?_⟩
  · intro hstate
    refine hsame fun event _ => ?_
    rw [contextWithin_of_stateBlock_eq_nil hstate]
  · intro htag
    exact @code_resolveCombat_iff ⟨d, table, some r, context⟩ r step rfl htag h outcome.name

/-- A combat whose state block arms the player, who wins only when armed. -/
def ambush : Document :=
  .ofOutline (.branch (.bare .quest) [.branch (.bare .combat) [
    .branch ⟨.text, .empty, "{{armed = true}}", "", none⟩ [],
    .branch ⟨.enemyLine, .empty, "Wolf", "", none⟩ [],
    .branch ⟨.event, .ofList [("on", "win"), ("condition", "armed")], "", "", none⟩ [],
    .branch ⟨.event, .ofList [("on", "lose")], "", "", none⟩ []]])

/-- The combat is shown, but play does not find the way on once it is won. -/
theorem provides_iff_of_loadCombat_ambush :
    ∃ step, (ambush.loadCombat .empty ⟨1, by decide⟩ .empty).answer = .ok step ∧
      ¬ ambush.Provides ⟨1, by decide⟩ "win" .empty ∧
      ambush.Provides ⟨1, by decide⟩ "lose" .empty := by
  have hshown : (ambush.loadCombat .empty ⟨1, by decide⟩ .empty).answer.isOk = true := by
    decide +kernel
  have hwin : (ambush.eventsFor ⟨1, by decide⟩ "win").find? (ambush.takesPart .empty) = none := by
    decide +kernel
  have hlose : (ambush.eventsFor ⟨1, by decide⟩ "lose").find? (ambush.takesPart .empty) =
      some ⟨5, by decide⟩ := by
    decide +kernel
  have hwithin : ambush.takesPart (ambush.contextWithin ⟨1, by decide⟩ .empty) ⟨5, by decide⟩ =
      true := by
    decide +kernel
  obtain ⟨step, h⟩ := Except.isOk_iff.1 hshown
  refine ⟨step, h, ?_, ?_⟩
  · intro hprovides
    obtain ⟨event, hfind, -⟩ :=
      (provides_iff_of_loadCombat ambush .empty _ .empty step h .win).2.1.1 hprovides
    cases hwin.symm.trans hfind
  · exact (provides_iff_of_loadCombat ambush .empty _ .empty step h .lose).2.1.2
      ⟨_, hlose, hwithin⟩

end Session

end Gamebook
