import Gamebook.Proofs.Session.Inputs

/-! # Sessions under calls

A player opens a session and then calls on it again and again. A call that fails leaves the session
as it was, so a run is a fold over the calls. `after_cases` says what a single call can do, and
`exists_after_of_leads` that each of these ways can be taken.
-/

namespace Gamebook

namespace Document

variable (d : Document) (table : Encounters)

/-- A node that is shown to a player, who then chooses or fights. -/
def IsScene (r : d.Ref) : Prop :=
  d.tag r = .roleplay ∨ d.tag r = .combat

/-- Within a number of hops the triggers from a node on end at another, which is no trigger. -/
inductive Settles : Nat → d.Ref → d.Ref → Prop where
  | here {hops : Nat} {r : d.Ref} (htag : d.tag r ≠ .trigger) : Settles (hops + 1) r r
  | hop {hops : Nat} {r next last : d.Ref} (htag : d.tag r = .trigger)
      (hload : d.loadTrigger r = .ok ⟨next, .goto⟩) (hrest : Settles hops next last) :
      Settles (hops + 1) r last

/-- The nodes that a player can send play to from a card, before triggers are followed. -/
inductive Leads (r : d.Ref) (context : Context) : d.Ref → Prop where
  | choice {step : RoleplayStep} {choice next : d.Ref} (htag : d.tag r = .roleplay)
      (hload : (d.loadRoleplay r context).answer = .ok step)
      (hmem : choice ∈ d.choicesIn r step.context)
      (hresolve : (d.resolveBranch choice step.context).answer = .ok next) : Leads r context next
  | onward {step : RoleplayStep} {next : d.Ref} (htag : d.tag r = .roleplay)
      (hload : (d.loadRoleplay r context).answer = .ok step)
      (hnone : d.choicesIn r step.context = [])
      (hends : d.endsWithin r step.context = false)
      (hfall : (d.fallThrough r step.context).value = some next) : Leads r context next
  | event {step : CombatStep} {name : String} {event next : d.Ref} {parameters : EventParameters}
      (htag : d.tag r = .combat) (hload : (d.loadCombat table r context).answer = .ok step)
      (hfind : (d.eventsFor r name).find? (d.takesPart context) = some event)
      (hread : (d.node event).eventParameters = .ok parameters)
      (hresolve : (d.resolveBranch event context).answer = .ok next) : Leads r context next

variable {d} {table}

theorem followTriggers_none {hops : Nat} {node : Option d.Ref}
    (h : d.followTriggers hops none = .ok node) : node = none := by
  cases hops with
  | zero => cases h
  | succ hops =>
      cases h
      rfl

/-- Following triggers arrives exactly at the nodes where they end. -/
theorem followTriggers_eq_some_iff {hops : Nat} {r last : d.Ref} :
    d.followTriggers hops (some r) = .ok (some last) ↔ d.Settles hops r last := by
  -- Both sides use up one hop for each trigger.
  induction hops generalizing r with
  | zero =>
      constructor
      · intro h
        cases h
      · intro h
        cases h
  | succ hops ih =>
      unfold followTriggers
      split
      next htag =>
        cases hload : d.loadTrigger r with
        | error fault =>
            constructor
            · intro h
              cases h
            · intro h
              cases h with
              | here hother => exact absurd htag hother
              | hop _ hload' _ => simp [hload] at hload'
        | ok trigger =>
            obtain ⟨target, kind⟩ := trigger
            cases kind with
            | finish =>
                constructor
                · intro h
                  cases followTriggers_none h
                · intro h
                  cases h with
                  | here hother => exact absurd htag hother
                  | hop _ hload' _ => simp [hload] at hload'
            | goto =>
                constructor
                · intro h
                  exact .hop htag hload (ih.1 h)
                · intro h
                  cases h with
                  | here hother => exact absurd htag hother
                  | hop _ hload' hrest =>
                      rw [hload] at hload'
                      cases hload'
                      exact ih.2 hrest
      next htag =>
        constructor
        · intro h
          cases h
          exact .here htag
        · intro h
          cases h with
          | here => rfl
          | hop htag' => exact absurd htag' htag

theorem tag_ne_trigger_of_settles {hops : Nat} {r last : d.Ref} (h : d.Settles hops r last) :
    d.tag last ≠ .trigger := by
  induction h with
  | here htag => exact htag
  | hop _ _ _ ih => exact ih

/-- Triggers end at the node from which they were followed, or at one that a trigger goes to. -/
theorem eq_or_goto_of_settles {hops : Nat} {r last : d.Ref} (h : d.Settles hops r last) :
    last = r ∨ ∃ trigger, d.tag trigger = .trigger ∧ d.loadTrigger trigger = .ok ⟨last, .goto⟩ := by
  induction h with
  | here => exact Or.inl rfl
  | hop htag hload _ ih =>
      rcases ih with rfl | hgoto
      · exact Or.inr ⟨_, htag, hload⟩
      · exact Or.inr hgoto

end Document

/-- What a player can do in a session. -/
inductive Call where
  | choose (index : Nat)
  | resolve (name : String)
deriving DecidableEq

namespace Session

open Document

variable {d : Document} {table : Encounters}

/-- The sessions that a player can open on a document, at its beginning or from a snapshot. -/
inductive Opened (d : Document) (table : Encounters) : Session → Prop where
  | start {context : Context} {session : Session}
      (h : (start d table context).answer = .ok session) : Opened d table session
  | resume {snapshot : Snapshot} {session : Session}
      (h : resume d table snapshot = .ok session) : Opened d table session

/-- What a call makes of a session, if it succeeds. -/
def answerTo (session : Session) : Call → Except Fault Session
  | .choose index => (session.choose index).answer
  | .resolve name => (session.resolveCombat name).answer.map Prod.snd

/-- The session after a call, which is the same session if the call fails. -/
def after (session : Session) (call : Call) : Session :=
  match session.answerTo call with
  | .ok next => next
  | .error _ => session

/-- The session after one call after the other. -/
def play (session : Session) (calls : List Call) : Session :=
  calls.foldl after session

/-- A property that every call preserves holds throughout a run. -/
theorem play_induction {motive : Session → Prop}
    (hstep : ∀ session call, motive session → motive (session.after call)) {session : Session}
    (h : motive session) (calls : List Call) : motive (session.play calls) := by
  induction calls generalizing session with
  | nil => exact h
  | cons call rest ih => exact ih (hstep session call h)

/-- What is taken of a piece of story that loads is one of the ways from it. -/
theorem leads_of_afterChoice {r next : d.Ref} {node : Option d.Ref} {context : Context}
    {index : Nat} {step : RoleplayStep} (htag : d.tag r = .roleplay)
    (hload : (d.loadRoleplay r context).answer = .ok step) (hlt : index < step.choices.length)
    (h : (afterChoice ⟨d, table, node, context⟩ r index step.context).answer = .ok (some next)) :
    d.Leads table r context next := by
  rw [answer_afterChoice] at h
  dsimp only at h
  cases hchoice : (d.choicesIn r step.context)[index]? with
  | some choice =>
      rw [hchoice] at h
      obtain ⟨_, hresolve, heq⟩ := Except.map_eq_ok_iff.1 h
      cases heq
      exact .choice htag hload (List.mem_of_getElem? hchoice) hresolve
  | none =>
      rw [hchoice] at h
      dsimp only at h
      split at h
      · cases h
      next hends =>
        have hnone := choicesIn_eq_nil_of_lt hload hlt hchoice
        exact .onward htag hload hnone (Bool.eq_false_iff.2 hends) (Except.ok.inj h)

/-- A call that succeeds goes one of the ways from a card and settles where that leads. -/
theorem leads_of_answerTo {node : Option d.Ref} {context : Context} {call : Call} {next : Session}
    (h : answerTo ⟨d, table, node, context⟩ call = .ok next) :
    ∃ r context' onward last, node = some r ∧ d.IsScene r ∧
      (∀ target, onward = some target → d.Leads table r context target) ∧
      d.followTriggers maxTriggers onward = .ok last ∧ next = ⟨d, table, last, context'⟩ := by
  cases call with
  | choose index =>
      obtain ⟨r, step, onward, last, hnode, htag, hload, hlt, honward, hfollow, rfl⟩ :=
        choose_eq_ok_iff.1 h
      refine ⟨r, step.context, onward, last, hnode, Or.inl htag, ?_, hfollow, rfl⟩
      rintro target rfl
      exact leads_of_afterChoice htag hload hlt honward
  | resolve name =>
      obtain ⟨⟨parameters, _⟩, hresolve, rfl⟩ := Except.map_eq_ok_iff.1 h
      obtain ⟨r, step, event, onward, last, hnode, htag, hload, hfind, hread, honward, hfollow,
        rfl⟩ := resolveCombat_eq_ok_iff.1 hresolve
      refine ⟨r, context, some onward, last, hnode, Or.inr htag, ?_, hfollow, rfl⟩
      intro target heq
      cases heq
      exact .event htag hload hfind hread honward

/-- After a call a session is as it was, has ended, or is where a way from its card settles. -/
theorem after_cases (d : Document) (table : Encounters) (node : Option d.Ref) (context : Context)
    (call : Call) :
    after ⟨d, table, node, context⟩ call = ⟨d, table, node, context⟩ ∨
    (∃ context', after ⟨d, table, node, context⟩ call = ⟨d, table, none, context'⟩) ∨
    ∃ r target last context', node = some r ∧ d.IsScene r ∧ d.Leads table r context target ∧
      d.Settles maxTriggers target last ∧
      after ⟨d, table, node, context⟩ call = ⟨d, table, some last, context'⟩ := by
  unfold after
  cases hanswer : answerTo ⟨d, table, node, context⟩ call with
  | error fault => exact Or.inl rfl
  | ok next =>
      right
      obtain ⟨r, context', onward, last, hnode, hscene, hleads, hfollow, rfl⟩ :=
        leads_of_answerTo hanswer
      cases last with
      | none => exact Or.inl ⟨context', rfl⟩
      | some last =>
          right
          cases onward with
          | none => cases followTriggers_none hfollow
          | some target =>
              exact ⟨r, target, last, context', hnode, hscene, hleads target rfl,
                followTriggers_eq_some_iff.1 hfollow, rfl⟩

/-- Every way from a card that settles can be taken by a call. -/
theorem exists_after_of_leads {r target last : d.Ref} {context : Context}
    (hleads : d.Leads table r context target) (hsettles : d.Settles maxTriggers target last) :
    ∃ call context', after ⟨d, table, some r, context⟩ call = ⟨d, table, some last, context'⟩ := by
  have hfollow := followTriggers_eq_some_iff.2 hsettles
  cases hleads with
  | @choice step choice _ htag hload hmem hresolve =>
      obtain ⟨index, hindex⟩ := List.mem_iff_getElem?.1 hmem
      refine ⟨.choose index, step.context, ?_⟩
      have hlt : index < step.choices.length := by
        obtain ⟨hlt, -⟩ := List.getElem?_eq_some_iff.1 hindex
        have hlength := length_choices_of_loadRoleplay hload
        omega
      have hchoose : (choose ⟨d, table, some r, context⟩ index).answer =
          .ok ⟨d, table, some last, step.context⟩ := by
        refine choose_eq_ok_iff.2
          ⟨r, step, some target, some last, rfl, htag, hload, hlt, ?_, hfollow, rfl⟩
        rw [answer_afterChoice]
        dsimp only
        rw [hindex]
        dsimp only
        rw [hresolve]
        rfl
      rw [after, answerTo, hchoose]
  | @onward step _ htag hload hnone hends hfall =>
      -- To go on is offered alone, under the first number.
      refine ⟨.choose 0, step.context, ?_⟩
      have hlt : 0 < step.choices.length := by
        have hlength := length_choices_of_loadRoleplay hload
        omega
      have hchoose : (choose ⟨d, table, some r, context⟩ 0).answer =
          .ok ⟨d, table, some last, step.context⟩ := by
        refine choose_eq_ok_iff.2
          ⟨r, step, some target, some last, rfl, htag, hload, hlt, ?_, hfollow, rfl⟩
        rw [answer_afterChoice]
        dsimp only
        rw [hnone, List.getElem?_nil, hends, hfall]
        rfl
      rw [after, answerTo, hchoose]
  | @event step name event _ parameters htag hload hfind hread hresolve =>
      refine ⟨.resolve name, context, ?_⟩
      have hcombat : (resolveCombat ⟨d, table, some r, context⟩ name).answer =
          .ok (parameters, ⟨d, table, some last, context⟩) :=
        resolveCombat_eq_ok_iff.2 ⟨r, step, event, target, some last, rfl, htag, hload, hfind,
          hread, hresolve, hfollow, rfl⟩
      rw [after, answerTo, hcombat]
      rfl

/-- A session starts where triggers settle from the first card of the quest that takes part. -/
theorem start_eq_ok_iff {context : Context} {session : Session} :
    (start d table context).answer = .ok session ↔
      ∃ card node, (d.firstEnabledCard context).value = some card ∧
        d.followTriggers maxTriggers (some card) = .ok node ∧
        session = ⟨d, table, node, context⟩ := by
  rw [start, Play.answer_bind, Play.answer_liftM]
  simp only [Except.bind]
  cases (d.firstEnabledCard context).value with
  | none =>
      constructor
      · intro h
        cases h
      · rintro ⟨card, node, h, -⟩
        cases h
  | some card =>
      simp only [Play.answer_bind, Play.answer_ofExcept, Except.bind_eq_ok_iff, Option.some.injEq]
      constructor
      · rintro ⟨node, hfollow, -, -, h⟩
        cases h
        exact ⟨card, node, rfl, hfollow, rfl⟩
      · rintro ⟨_, node, rfl, hfollow, rfl⟩
        exact ⟨node, hfollow, ⟨⟩, rfl, rfl⟩

/-- The card that play starts from is a card. -/
theorem isCard_of_firstEnabledCard {context : Context} {card : d.Ref}
    (h : (d.firstEnabledCard context).value = some card) : (d.tag card).isCard = true := by
  rw [value_firstEnabledCard] at h
  have hcard := List.find?_some h
  exact (Bool.and_eq_true_iff.1 hcard).1

/-- A session is only resumed at a card that is shown to a player, or at the end. -/
theorem isScene_of_resume {snapshot : Snapshot} {session : Session}
    (h : resume d table snapshot = .ok session) :
    ∃ node, session = ⟨d, table, node, snapshot.context⟩ ∧ ∀ r, node = some r → d.IsScene r := by
  unfold resume at h
  split at h
  next node hplace =>
    cases h
    refine ⟨node, rfl, ?_⟩
    rintro r rfl
    unfold placeOf at hplace
    split at hplace
    · cases hplace
    · split at hplace
      · cases hplace
      · split at hplace
        · split at hplace
          next hscene =>
            cases hplace
            exact hscene
          next => cases hplace
        · cases hplace
  next => cases h

/-- Any card that is shown to a player can be resumed at, in any context. -/
theorem resume_of_isScene {r : d.Ref} (h : d.IsScene r) (context : Context) :
    resume d table ⟨some r.val, context, false⟩ = .ok ⟨d, table, some r, context⟩ := by
  have hplace : placeOf d ⟨some r.val, context, false⟩ = .ok (some r) := by
    have href : d.ref? r.val = some r := dif_pos r.isLt
    unfold placeOf
    rw [if_neg Bool.false_ne_true]
    dsimp only
    rw [href]
    exact if_pos h
  rw [resume, hplace]

end Session

end Gamebook
