import Gamebook.Proofs.Play.Levels
import Gamebook.Proofs.Session.Calls

/-! # Where a session comes to rest

Between two calls a session is meant to be at a card that is shown to the player. Two ways lead
elsewhere: a trigger goes to any node that has the id it names, and play that goes on beside a card
arrives at whatever follows it. `rests_at_scene_iff` says that there are no other ways, and for
which documents every session keeps to the cards.
-/

namespace Gamebook

namespace Document

variable (d : Document)

/-- A node at which play can come to rest although it is not shown to a player: a trigger goes to
it, or it follows another node. -/
structure IsStray (r : d.Ref) : Prop where
  not_scene : ¬ d.IsScene r
  not_trigger : d.tag r ≠ .trigger
  reached : (∃ trigger, d.tag trigger = .trigger ∧ d.loadTrigger trigger = .ok ⟨r, .goto⟩) ∨
    ∃ card, r ∈ d.followers card

variable {d}

theorem isScene_or_trigger_of_isCard {r : d.Ref} (h : (d.tag r).isCard = true) :
    d.IsScene r ∨ d.tag r = .trigger := by
  unfold IsScene
  cases htag : d.tag r <;> simp_all [Tag.isCard]

/-- A way from a card leads to a card, to what a trigger goes to or to what follows a node. -/
theorem isCard_or_reached_of_leads {table : Encounters} {r next : d.Ref} {context : Context}
    (h : d.Leads table r context next) :
    (d.tag next).isCard = true ∨
      (∃ trigger, d.tag trigger = .trigger ∧ d.loadTrigger trigger = .ok ⟨next, .goto⟩) ∨
      ∃ card, next ∈ d.followers card := by
  cases h with
  | choice _ _ _ hresolve =>
      rcases isCard_or_goto_of_resolveBranch hresolve with hcard | hgoto
      · exact Or.inl hcard
      · exact Or.inr (Or.inl hgoto)
  | onward _ _ _ _ hfall =>
      rw [value_fallThrough_eq] at hfall
      obtain ⟨level, -, hnext⟩ := exists_level_of_onward? hfall
      exact Or.inr (Or.inr ⟨level, hnext⟩)
  | event _ _ _ _ hresolve =>
      rcases isCard_or_goto_of_resolveBranch hresolve with hcard | hgoto
      · exact Or.inl hcard
      · exact Or.inr (Or.inl hgoto)

/-- Where triggers settle from a node that play was led to, there is a scene or a stray. -/
theorem isScene_or_isStray_of_settles {hops : Nat} {next last : d.Ref}
    (hnext : (d.tag next).isCard = true ∨
      (∃ trigger, d.tag trigger = .trigger ∧ d.loadTrigger trigger = .ok ⟨next, .goto⟩) ∨
      ∃ card, next ∈ d.followers card) (hsettles : d.Settles hops next last) :
    d.IsScene last ∨ d.IsStray last := by
  have htrigger := tag_ne_trigger_of_settles hsettles
  by_cases hscene : d.IsScene last
  · exact Or.inl hscene
  · right
    refine ⟨hscene, htrigger, ?_⟩
    rcases eq_or_goto_of_settles hsettles with rfl | hgoto
    · rcases hnext with hcard | hreached
      · rcases isScene_or_trigger_of_isCard hcard with h | h
        · exact absurd h hscene
        · exact absurd h htrigger
      · exact hreached
    · exact Or.inl hgoto

end Document

namespace Session

open Document

variable {d : Document} {table : Encounters}

/-- A session that has ended or is at a card that is shown to the player. -/
def AtScene (session : Session) : Prop :=
  ∀ r, session.node = some r → session.document.IsScene r

/-- A session on a document that has ended or is at a node of some kind. -/
def RestsAt (d : Document) (table : Encounters) (kind : d.Ref → Prop) (session : Session) : Prop :=
  ∃ node context, session = ⟨d, table, node, context⟩ ∧ ∀ r, node = some r → kind r

theorem restsAt_of_opened {kind : d.Ref → Prop} {session : Session}
    (hscene : ∀ r, d.IsScene r → kind r)
    (hstart : ∀ context card last, (d.firstEnabledCard context).value = some card →
      d.Settles maxTriggers card last → kind last)
    (h : Opened d table session) : RestsAt d table kind session := by
  cases h with
  | start h =>
      obtain ⟨card, node, hcard, hfollow, rfl⟩ := start_eq_ok_iff.1 h
      refine ⟨node, _, rfl, ?_⟩
      rintro r rfl
      exact hstart _ card r hcard (followTriggers_eq_some_iff.1 hfollow)
  | resume h =>
      obtain ⟨node, rfl, hnode⟩ := isScene_of_resume h
      exact ⟨node, _, rfl, fun r hr => hscene r (hnode r hr)⟩

theorem restsAt_after {kind : d.Ref → Prop} {session : Session} (call : Call)
    (hleads : ∀ r context next last, d.IsScene r → d.Leads table r context next →
      d.Settles maxTriggers next last → kind last)
    (h : RestsAt d table kind session) : RestsAt d table kind (session.after call) := by
  obtain ⟨node, context, rfl, hnode⟩ := h
  rcases after_cases d table node context call with
    hsame | ⟨context', hended⟩ | ⟨r, target, last, context', -, hscene, hway, hsettles, hlast⟩
  · rw [hsame]
    exact ⟨node, context, rfl, hnode⟩
  · rw [hended]
    exact ⟨none, context', rfl, by simp⟩
  · rw [hlast]
    refine ⟨some last, context', rfl, ?_⟩
    intro r' hr'
    cases hr'
    exact hleads r context target last hscene hway hsettles

/-- A run keeps to nodes of a kind if scenes are of it, and if whatever the quest begins with and
whatever a player can do at a scene settles at a node of it. -/
theorem restsAt_play {kind : d.Ref → Prop} (hscene : ∀ r, d.IsScene r → kind r)
    (hstart : ∀ context card last, (d.firstEnabledCard context).value = some card →
      d.Settles maxTriggers card last → kind last)
    (hleads : ∀ r context next last, d.IsScene r → d.Leads table r context next →
      d.Settles maxTriggers next last → kind last)
    {session : Session} (hopened : Opened d table session) (calls : List Call) :
    RestsAt d table kind (session.play calls) :=
  play_induction (fun _ call h => restsAt_after call hleads h)
    (restsAt_of_opened hscene hstart hopened) calls

/-- Every run of every session keeps to the scenes and strays of its document. It keeps to the
scenes exactly if whatever the quest begins with and whatever a player can do at a scene settles at
a scene. -/
theorem rests_at_scene_iff (d : Document) (table : Encounters) :
    (∀ session calls, Opened d table session →
      RestsAt d table (fun r => d.IsScene r ∨ d.IsStray r) (session.play calls)) ∧
    ((∀ session calls, Opened d table session → AtScene (session.play calls)) ↔
      (∀ context card last, (d.firstEnabledCard context).value = some card →
        d.Settles maxTriggers card last → d.IsScene last) ∧
      ∀ r context next last, d.IsScene r → d.Leads table r context next →
        d.Settles maxTriggers next last → d.IsScene last) := by
  refine ⟨?_, ?_, ?_⟩
  · intro session calls hopened
    refine restsAt_play (fun r => Or.inl) ?_ ?_ hopened calls
    · intro context card last hcard hsettles
      exact isScene_or_isStray_of_settles (Or.inl (isCard_of_firstEnabledCard hcard)) hsettles
    · intro r context next last _ hleads hsettles
      exact isScene_or_isStray_of_settles (isCard_or_reached_of_leads hleads) hsettles
  · intro hscenes
    refine ⟨?_, ?_⟩
    · intro context card last hcard hsettles
      have hstart : (start d table context).answer = .ok ⟨d, table, some last, context⟩ :=
        start_eq_ok_iff.2 ⟨card, some last, hcard, followTriggers_eq_some_iff.2 hsettles, rfl⟩
      exact hscenes _ [] (.start hstart) last rfl
    · -- Every scene can be resumed at in every context, so each way from it is open to a player.
      intro r context next last hscene hleads hsettles
      obtain ⟨call, context', hafter⟩ := exists_after_of_leads hleads hsettles
      have hrest := hscenes _ [call] (.resume (resume_of_isScene hscene context))
      rw [play, List.foldl_cons, hafter] at hrest
      exact hrest last rfl
  · rintro ⟨hstart, hleads⟩ session calls hopened
    obtain ⟨node, context, heq, hnode⟩ :=
      restsAt_play (fun r h => h) hstart hleads hopened calls
    rw [heq]
    exact hnode

/-- Two pieces of story with a text between them, outside of both. -/
def looseText : Document :=
  .ofOutline (.branch (.bare .quest)
    [.branch (.bare .roleplay) [], .branch (.bare .text) [], .branch (.bare .roleplay) []])

/-- Going on from the first piece of story, a session comes to rest at the text. -/
example : (start looseText .empty .empty).answer.map
    (fun session => (session.play [.choose 0]).node.map Fin.val) = .ok (some 2) := by
  cbv

end Session

end Gamebook
