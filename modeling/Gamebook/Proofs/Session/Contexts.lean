import Gamebook.Proofs.Session.Calls

/-! # The context of a session

Whatever is asked of a session, its context is the one that it was opened in after the state blocks
of those pieces of story that a choice has left, in order (`context_of_useAll`). What fails leaves
no trace, and a combat does not either.
-/

namespace Gamebook

/-- What can be asked of a session. -/
inductive Use where
  | choose (index : Nat)
  | resolve (name : String)
  | scene
  | snapshot
deriving DecidableEq

/-- What a session replies. -/
inductive Reply where
  | moved
  | given (parameters : EventParameters)
  | shown (scene : Scene)
  | kept (snapshot : Snapshot)
deriving DecidableEq

/-- Steps on a session at hand. What was changed before a failure stays changed. -/
abbrev OnSession := ExceptT Fault (StateM Session)

/-- Asks something of the session at hand, which becomes the one that the answer leads to. -/
def Use.ask : Use → OnSession Reply
  | .choose index => do
    let next ← MonadExcept.ofExcept ((← get).choose index).answer
    set next
    return .moved
  | .resolve name => do
    let (parameters, next) ← MonadExcept.ofExcept ((← get).resolveCombat name).answer
    set next
    return .given parameters
  | .scene => do
    let scene ← MonadExcept.ofExcept (← get).scene.answer
    return .shown scene
  | .snapshot => return .kept (← get).snapshot

namespace Session

open Document

/-- What a session replies, and what becomes of it. -/
def reply (session : Session) (use : Use) : Except Fault Reply × Session :=
  use.ask.run.run session

/-- What becomes of a session when one thing after the other is asked of it. -/
def useAll (session : Session) (uses : List Use) : Session :=
  uses.foldl (fun session use => (session.reply use).2) session

/-- The number of the card that a choice leaves, if it succeeds. -/
def cardLeft? (session : Session) : Use → Option Nat
  | .choose index => if (session.choose index).answer.isOk then session.snapshot.node else none
  | _ => none

/-- The numbers of the cards that the choices which succeed leave, in order. -/
def cardsLeft (session : Session) : List Use → List Nat
  | [] => []
  | use :: rest => (session.cardLeft? use).toList ++ (session.reply use).2.cardsLeft rest

theorem reply_choose (session : Session) (index : Nat) :
    session.reply (.choose index) = match (session.choose index).answer with
      | .ok next => (.ok .moved, next)
      | .error fault => (.error fault, session) := by
  change (ExceptT.run (do
    let next ← MonadExcept.ofExcept (session.choose index).answer
    set next
    return Reply.moved : OnSession Reply)).run session = _
  cases (session.choose index).answer <;> rfl

theorem reply_resolve (session : Session) (name : String) :
    session.reply (.resolve name) = match (session.resolveCombat name).answer with
      | .ok (parameters, next) => (.ok (.given parameters), next)
      | .error fault => (.error fault, session) := by
  change (ExceptT.run (do
    let (parameters, next) ← MonadExcept.ofExcept (session.resolveCombat name).answer
    set next
    return Reply.given parameters : OnSession Reply)).run session = _
  cases (session.resolveCombat name).answer <;> rfl

theorem reply_scene (session : Session) :
    session.reply .scene = (session.scene.answer.map .shown, session) := by
  change (ExceptT.run (do
    let scene ← MonadExcept.ofExcept session.scene.answer
    return Reply.shown scene : OnSession Reply)).run session = _
  cases session.scene.answer <;> rfl

theorem reply_snapshot (session : Session) :
    session.reply .snapshot = (.ok (.kept session.snapshot), session) := rfl

/-- What fails leaves the session as it was. -/
theorem reply_of_error {session : Session} {use : Use} {fault : Fault}
    (h : (session.reply use).1 = .error fault) : (session.reply use).2 = session := by
  cases use with
  | choose index =>
      rw [reply_choose] at h ⊢
      cases hchoose : (session.choose index).answer with
      | ok next =>
          rw [hchoose] at h
          cases h
      | error fault => rfl
  | resolve name =>
      rw [reply_resolve] at h ⊢
      cases hresolve : (session.resolveCombat name).answer with
      | ok given =>
          rw [hresolve] at h
          cases h
      | error fault => rfl
  | scene => rw [reply_scene]
  | snapshot => rw [reply_snapshot]

variable {d : Document} {table : Encounters}

/-- A choice that succeeds leaves its card with the context within; nothing else changes the
context. -/
theorem reply_cases (node : Option d.Ref) (context : Context) (use : Use) :
    ∃ last,
      (cardLeft? ⟨d, table, node, context⟩ use = none ∧
        (reply ⟨d, table, node, context⟩ use).2 = ⟨d, table, last, context⟩) ∨
      ∃ card index, use = .choose index ∧ d.tag card = .roleplay ∧
        cardLeft? ⟨d, table, node, context⟩ use = some card.val ∧
        (reply ⟨d, table, node, context⟩ use).2 =
          ⟨d, table, last, d.contextWithin card context⟩ := by
  cases use with
  | choose index =>
      rw [reply_choose, cardLeft?]
      cases hchoose : (choose ⟨d, table, node, context⟩ index).answer with
      | error fault => exact ⟨node, Or.inl ⟨rfl, rfl⟩⟩
      | ok next =>
          obtain ⟨card, step, _, last, hnode, htag, hload, -, -, -, rfl⟩ :=
            choose_eq_ok_iff.1 hchoose
          have hcontext := (choices_of_loadRoleplay hload).1
          refine ⟨last, Or.inr ⟨card, index, rfl, htag, ?_, ?_⟩⟩
          · change node.map Fin.val = some card.val
            rw [show node = some card from hnode]
            rfl
          · rw [← hcontext]
  | resolve name =>
      rw [reply_resolve]
      cases hresolve : (resolveCombat ⟨d, table, node, context⟩ name).answer with
      | error fault => exact ⟨node, Or.inl ⟨rfl, rfl⟩⟩
      | ok given =>
          obtain ⟨parameters, next⟩ := given
          obtain ⟨_, _, _, _, last, -, -, -, -, -, -, -, rfl⟩ := resolveCombat_eq_ok_iff.1 hresolve
          exact ⟨last, Or.inl ⟨rfl, rfl⟩⟩
  | scene =>
      rw [reply_scene]
      exact ⟨node, Or.inl ⟨rfl, rfl⟩⟩
  | snapshot => exact ⟨node, Or.inl ⟨rfl, rfl⟩⟩

/-- The context after a run is that before it after the state blocks of the cards that were left. -/
theorem exists_cards_of_useAll (node : Option d.Ref) (context : Context) (uses : List Use) :
    ∃ (cards : List d.Ref) (last : Option d.Ref),
      cards.map Fin.val = cardsLeft ⟨d, table, node, context⟩ uses ∧
      (∀ card ∈ cards, d.tag card = .roleplay) ∧
      useAll ⟨d, table, node, context⟩ uses =
        ⟨d, table, last,
          cards.foldl (fun context card => d.contextWithin card context) context⟩ := by
  induction uses generalizing node context with
  | nil => exact ⟨[], node, rfl, by simp, rfl⟩
  | cons use rest ih =>
      rw [cardsLeft, useAll, List.foldl_cons, ← useAll]
      obtain ⟨next, ⟨hleft, hreply⟩ | ⟨card, index, -, htag, hleft, hreply⟩⟩ :=
        @reply_cases d table node context use
      · rw [hleft, hreply]
        exact ih next context
      · rw [hleft, hreply]
        obtain ⟨cards, last, hcards, htags, hrun⟩ := ih next (d.contextWithin card context)
        refine ⟨card :: cards, last, ?_, ?_, hrun⟩
        · rw [List.map_cons, hcards]
          rfl
        · exact List.forall_mem_cons.2 ⟨htag, htags⟩

/-- The sessions on a document that are opened in a context, at its beginning or from a snapshot. -/
inductive OpenedIn (d : Document) (table : Encounters) : Context → Session → Prop where
  | start {context : Context} {session : Session}
      (h : (start d table context).answer = .ok session) : OpenedIn d table context session
  | resume {snapshot : Snapshot} {session : Session}
      (h : resume d table snapshot = .ok session) : OpenedIn d table snapshot.context session

theorem exists_node_of_openedIn {context : Context} {session : Session}
    (h : OpenedIn d table context session) : ∃ node, session = ⟨d, table, node, context⟩ := by
  cases h with
  | start h =>
      obtain ⟨_, node, -, -, rfl⟩ := start_eq_ok_iff.1 h
      exact ⟨node, rfl⟩
  | resume h =>
      obtain ⟨node, rfl, -⟩ := isScene_of_resume h
      exact ⟨node, rfl⟩

/-- At every moment of a run the context of a session is the one that it was opened in after the
state blocks of the cards that choices have left, once for each time. What fails leaves the session
as it was, only choices change the context, and showing a scene or giving a snapshot changes
nothing. -/
theorem context_of_useAll (d : Document) (table : Encounters) (base : Context) (session : Session)
    (hopened : OpenedIn d table base session) (uses : List Use) :
    (∃ cards : List d.Ref, cards.map Fin.val = session.cardsLeft uses ∧
      (∀ card ∈ cards, d.tag card = .roleplay) ∧
      (session.useAll uses).context =
        cards.foldl (fun context card => (d.updateContext card context).value) base) ∧
    ∀ use,
      (∀ fault, ((session.useAll uses).reply use).1 = .error fault →
        ((session.useAll uses).reply use).2 = session.useAll uses) ∧
      ((∀ index, use ≠ .choose index) →
        ((session.useAll uses).reply use).2.context = (session.useAll uses).context) ∧
      (use = .scene ∨ use = .snapshot →
        ((session.useAll uses).reply use).2 = session.useAll uses) := by
  obtain ⟨node, rfl⟩ := exists_node_of_openedIn hopened
  obtain ⟨cards, last, hcards, htags, hrun⟩ := @exists_cards_of_useAll d table node base uses
  refine ⟨⟨cards, hcards, htags, by rw [hrun]; rfl⟩, ?_⟩
  intro use
  refine ⟨fun fault => reply_of_error, ?_, ?_⟩
  · intro hother
    rw [hrun]
    obtain ⟨next, ⟨-, hreply⟩ | ⟨card, index, huse, -⟩⟩ := @reply_cases d table last
      (cards.foldl (fun context card => d.contextWithin card context) base) use
    · rw [hreply]
    · exact absurd huse (hother index)
  · rintro (rfl | rfl)
    · rw [reply_scene]
    · rw [reply_snapshot]

/-- Two pieces of story. The first lights a torch, and the second puts it out. -/
def lantern : Document :=
  .ofOutline (.branch (.bare .quest) [
    .branch (.bare .roleplay) [
      .branch ⟨.text, .empty, "{{lit = true}}", "", none⟩ []],
    .branch (.bare .roleplay) [
      .branch ⟨.text, .empty, "{{lit = false}}", "", none⟩ []]])

/-- The torch is lit once the first card is left, whatever fails after that, and out in the end. -/
theorem context_of_useAll_lantern :
    ∃ session, OpenedIn lantern .empty .empty session ∧
      session.cardsLeft [.choose 0, .choose 7, .scene, .choose 0] = [1, 3] ∧
      (session.useAll [.choose 0, .choose 7, .scene, .choose 0]).context =
        (lantern.updateContext ⟨3, by decide⟩
          (lantern.updateContext ⟨1, by decide⟩ .empty).value).value ∧
      ((session.useAll [.choose 0]).reply (.choose 7)).2 = session.useAll [.choose 0] := by
  have hresult : (start lantern .empty .empty).answer.toOption.map (fun session =>
      (session.cardsLeft [.choose 0, .choose 7, .scene, .choose 0],
        ((session.useAll [.choose 0]).reply (.choose 7)).1.isOk)) = some ([1, 3], false) := by
    decide +kernel
  cases hstart : (start lantern .empty .empty).answer with
  | error fault =>
      rw [hstart] at hresult
      cases hresult
  | ok session =>
      rw [hstart] at hresult
      obtain ⟨hleft, hfails⟩ := Prod.mk.inj (Option.some.inj hresult)
      have hopened : OpenedIn lantern .empty .empty session := .start hstart
      refine ⟨session, hopened, hleft, ?_, ?_⟩
      · obtain ⟨cards, hcards, -, hcontext⟩ := (context_of_useAll lantern .empty .empty session
          hopened [.choose 0, .choose 7, .scene, .choose 0]).1
        rw [hleft] at hcards
        have hsame : cards = [⟨1, by decide⟩, ⟨3, by decide⟩] :=
          (List.map_inj_right fun _ _ => Fin.ext).1 hcards
        rw [hcontext, hsame]
        rfl
      · cases hreply : ((session.useAll [.choose 0]).reply (.choose 7)).1 with
        | ok reply =>
            rw [hreply] at hfails
            cases hfails
        | error fault =>
            exact ((context_of_useAll lantern .empty .empty session hopened [.choose 0]).2
              (.choose 7)).1 fault hreply

end Session

end Gamebook
