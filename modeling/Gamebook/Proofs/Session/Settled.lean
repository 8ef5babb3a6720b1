import Gamebook.Proofs.Play.Blame
import Gamebook.Proofs.Session.Contexts

/-! # Settled sessions

Triggers are followed at once, so a session is never at one: a session is opened settled
(`settled_of_opened`) and stays so whatever is asked of it (`settled_reply`). Of all the faults that
a settled session replies with none is that of a session which is parked on a trigger
(`code_ne_of_reply`).
-/

namespace Gamebook

/-- The code of a session that is parked on a trigger belongs to no other cause. -/
theorem Cause.code_eq_unsettled_iff {cause : Cause} :
    cause.code = "SESSION_UNSETTLED" ↔ cause = .parkedOnTrigger := by
  cases cause with
  | combatWithoutOutcome outcome => cases outcome <;> simp [code]
  | _ => simp [code]

/-- An answer is not the fault of a session that is parked on a trigger. -/
def Unparked {α : Type} (answer : Except Fault α) : Prop :=
  ∀ fault, answer = .error fault → fault.cause ≠ .parkedOnTrigger

section

variable {α β : Type}

theorem unparked_ok (a : α) : Unparked (.ok a) := by
  intro fault h
  cases h

theorem unparked_error {cause : Cause} (h : cause ≠ .parkedOnTrigger) :
    Unparked (.error (.ofCause cause) : Except Fault α) := by
  intro fault hfault
  cases hfault
  exact h

theorem Unparked.bind {x : Except Fault α} {f : α → Except Fault β} (hx : Unparked x)
    (hf : ∀ a, x = .ok a → Unparked (f a)) : Unparked (x.bind f) := by
  intro fault h
  rcases Except.bind_eq_error_iff.1 h with hfirst | ⟨a, ha, hrest⟩
  · exact hx fault hfirst
  · exact hf a ha fault hrest

theorem Unparked.map {x : Except Fault α} (hx : Unparked x) (f : α → β) : Unparked (x.map f) := by
  intro fault h
  exact hx fault (Except.map_eq_error_iff.1 h)

/-- The way to the next card never fails so. -/
theorem unparked_of_concernsWay {x : Except Fault α}
    (h : ∀ fault, x = .error fault → fault.cause.concernsWay = true) : Unparked x := by
  intro fault hfault hcause
  have hway := h fault hfault
  rw [hcause] at hway
  cases hway

/-- Neither does what fails at a node. -/
theorem Document.FailsWithin.unparked {d : Document} {r : d.Ref} {x : Except Fault α}
    (h : FailsWithin r x) : Unparked x := by
  intro fault hfault hcause
  obtain ⟨s, -, cause, hconcerns, rfl⟩ := h fault hfault
  rw [show cause = .parkedOnTrigger from hcause] at hconcerns
  cases hconcerns

end

theorem Document.tag_ne_trigger_of_followTriggers {d : Document} {hops : Nat}
    {start : Option d.Ref} {last : d.Ref} (h : d.followTriggers hops start = .ok (some last)) :
    d.tag last ≠ .trigger := by
  cases start with
  | none => cases followTriggers_none h
  | some r => exact tag_ne_trigger_of_settles (followTriggers_eq_some_iff.1 h)

/-- Only triggers do something as a trigger. -/
theorem Document.tag_eq_trigger_of_loadStep {d : Document} {table : Encounters} {r : d.Ref}
    {context : Context} {target : Nat} {kind : TriggerKind}
    (h : (d.loadStep table r context).answer = .ok (.trigger target kind)) :
    d.tag r = .trigger := by
  unfold loadStep at h
  split at h
  · rw [Play.answer_bind] at h
    obtain ⟨step, -, hstep⟩ := Except.bind_eq_ok_iff.1 h
    cases hstep
  · rw [Play.answer_bind] at h
    obtain ⟨step, -, hstep⟩ := Except.bind_eq_ok_iff.1 h
    cases hstep
  · assumption
  · cases h

namespace Session

variable {session : Session}

/-- A session that is at no trigger. -/
def Settled (session : Session) : Prop :=
  ∀ r, session.node = some r → session.document.tag r ≠ .trigger

/-- Where triggers have been followed a session is settled. -/
theorem settled_of_followTriggers {d : Document} {hops : Nat} {start last : Option d.Ref}
    (h : d.followTriggers hops start = .ok last) (table : Encounters) (context : Context) :
    Settled ⟨d, table, last, context⟩ := by
  intro r hr
  change last = some r at hr
  rw [hr] at h
  exact Document.tag_ne_trigger_of_followTriggers h

theorem settled_of_start {d : Document} {table : Encounters} {context : Context}
    (h : (start d table context).answer = .ok session) : session.Settled := by
  obtain ⟨card, node, -, hfollow, rfl⟩ := start_eq_ok_iff.1 h
  exact settled_of_followTriggers hfollow table context

theorem settled_of_resume {d : Document} {table : Encounters} {snapshot : Snapshot}
    (h : resume d table snapshot = .ok session) : session.Settled := by
  obtain ⟨node, rfl, hscene⟩ := isScene_of_resume h
  intro r hr
  rcases hscene r hr with htag | htag
  · simp [htag]
  · simp [htag]

/-- A session stays settled whatever is asked of it. -/
theorem settled_reply (h : session.Settled) (use : Use) : (session.reply use).2.Settled := by
  cases use with
  | choose index =>
      rw [reply_choose]
      cases hchoose : (session.choose index).answer with
      | error fault => exact h
      | ok next =>
          obtain ⟨_, step, _, _, -, -, -, -, -, hfollow, rfl⟩ := choose_eq_ok_iff.1 hchoose
          exact settled_of_followTriggers hfollow session.encounters step.context
  | resolve name =>
      rw [reply_resolve]
      cases hresolve : (session.resolveCombat name).answer with
      | error fault => exact h
      | ok given =>
          obtain ⟨parameters, next⟩ := given
          obtain ⟨_, _, _, _, _, -, -, -, -, -, -, hfollow, rfl⟩ :=
            resolveCombat_eq_ok_iff.1 hresolve
          exact settled_of_followTriggers hfollow session.encounters session.context
  | scene =>
      rw [reply_scene]
      exact h
  | snapshot => exact h

theorem unparked_expect {tag : Tag} {cause : Tag → Cause}
    (hcause : ∀ found, cause found ≠ .parkedOnTrigger) : Unparked (session.expect tag cause) := by
  unfold expect
  split
  · exact unparked_error (by simp)
  · split
    · exact unparked_ok _
    · exact unparked_error (hcause _)

theorem unparked_followTriggers {d : Document} (node : Option d.Ref) :
    Unparked (d.followTriggers maxTriggers node) :=
  unparked_of_concernsWay fun _ => Document.concernsWay_of_followTriggers

theorem unparked_afterChoice (r : session.document.Ref) (index : Nat) (context : Context) :
    Unparked (session.afterChoice r index context).answer := by
  rw [answer_afterChoice]
  split
  · exact (unparked_of_concernsWay fun _ => Document.concernsWay_of_resolveBranch).map some
  · exact unparked_ok _

theorem unparked_choose (index : Nat) : Unparked (session.choose index).answer := by
  rw [choose, Play.answer_bind, Play.answer_ofExcept]
  refine (unparked_expect (by simp)).bind ?_
  intro r _
  rw [Play.answer_bind]
  refine (Document.failsWithin_loadRoleplay r _).unparked.bind ?_
  intro step _
  rw [Play.answer_ite]
  split
  · exact unparked_error (by simp)
  · rw [Play.answer_bind]
    refine (unparked_afterChoice r index _).bind ?_
    intro next _
    rw [Play.answer_bind, Play.answer_ofExcept]
    exact (unparked_followTriggers next).bind fun node _ => unparked_ok _

theorem unparked_resolveCombat (name : String) : Unparked (session.resolveCombat name).answer := by
  rw [resolveCombat, Play.answer_bind, Play.answer_ofExcept]
  refine (unparked_expect (by simp)).bind ?_
  intro r _
  rw [Play.answer_bind]
  refine (Document.failsWithin_loadCombat _ r _).unparked.bind ?_
  intro step _
  rw [Play.answer_bind]
  refine (Document.failsWithin_eventParameters r name _).unparked.bind ?_
  intro parameters _
  rw [Play.answer_bind]
  refine (Document.failsWithin_takeEvent r name _).unparked.bind ?_
  intro next _
  rw [Play.answer_bind, Play.answer_ofExcept]
  exact (unparked_followTriggers (some next)).bind fun node _ => unparked_ok _

/-- What a settled session shows is never a trigger. -/
theorem unparked_scene (h : session.Settled) : Unparked session.scene.answer := by
  obtain ⟨d, table, node, context⟩ := session
  cases node with
  | none => exact unparked_ok _
  | some r =>
      change Unparked (Play.answer (d.loadStep table r context >>= _))
      rw [Play.answer_bind]
      refine (Document.failsWithin_loadStep table r context).unparked.bind ?_
      intro step hstep
      cases step with
      | roleplay step => exact unparked_ok _
      | combat step => exact unparked_ok _
      | trigger target kind => exact absurd (Document.tag_eq_trigger_of_loadStep hstep) (h r rfl)

theorem answer_reply_choose (index : Nat) :
    (session.reply (.choose index)).1 =
      (session.choose index).answer.map fun _ => Reply.moved := by
  rw [reply_choose]
  cases (session.choose index).answer <;> rfl

theorem answer_reply_resolve (name : String) :
    (session.reply (.resolve name)).1 =
      (session.resolveCombat name).answer.map fun given => Reply.given given.1 := by
  rw [reply_resolve]
  cases (session.resolveCombat name).answer <;> rfl

/-- A settled session never replies that it is parked on a trigger. -/
theorem code_ne_of_reply (h : session.Settled) {use : Use} {fault : Fault}
    (hreply : (session.reply use).1 = .error fault) : fault.cause.code ≠ "SESSION_UNSETTLED" := by
  have hunparked : Unparked (session.reply use).1 := by
    cases use with
    | choose index =>
        rw [answer_reply_choose]
        exact (unparked_choose index).map _
    | resolve name =>
        rw [answer_reply_resolve]
        exact (unparked_resolveCombat name).map _
    | scene =>
        rw [reply_scene]
        exact (unparked_scene h).map _
    | snapshot => exact unparked_ok _
  intro hcode
  exact hunparked fault hreply (Cause.code_eq_unsettled_iff.1 hcode)

end Session

end Gamebook
