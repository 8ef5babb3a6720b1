import Gamebook.Proofs.Session.Landing

/-! # Quests without gotos

In a document that was read, play only comes back to a node that it has passed if a trigger sends it
there. Where no trigger does, each call that succeeds ends the quest or leads to a larger number, so
that a run has no more of them than the document has nodes (`forward_of_hasNoGoto`).
-/

namespace Gamebook

namespace Document

variable {d : Document} {table : Encounters}

/-- No trigger sends play to another node. -/
def HasNoGoto (d : Document) : Prop :=
  ∀ r, d.tag r = .trigger → gotoTarget? (Text.trimmed (d.node r).text).toList = none

instance (d : Document) : Decidable d.HasNoGoto :=
  inferInstanceAs (Decidable (∀ _ : Fin d.entries.size, _))

theorem eq_finish_of_loadTrigger (hgoto : d.HasNoGoto) {r : d.Ref} (htag : d.tag r = .trigger)
    {trigger : d.Trigger} (h : d.loadTrigger r = .ok trigger) : trigger = ⟨r, .finish⟩ := by
  unfold loadTrigger at h
  dsimp only at h
  split at h
  · cases h
    rfl
  · rw [hgoto r htag] at h
    cases h

theorem eq_of_settles (hgoto : d.HasNoGoto) {hops : Nat} {r last : d.Ref}
    (h : d.Settles hops r last) : last = r := by
  cases h with
  | here => rfl
  | hop htag hload _ => cases eq_finish_of_loadTrigger hgoto htag hload

theorem mem_children_of_resolveBranch (hgoto : d.HasNoGoto) {branch next : d.Ref}
    {context : Context} (h : (d.resolveBranch branch context).answer = .ok next) :
    next ∈ d.children branch := by
  rcases answer_resolveBranch branch context with ⟨only, hchildren, htag, heq⟩ | heq
  · rw [heq] at h
    obtain ⟨trigger, hload, rfl⟩ := Except.map_eq_ok_iff.1 h
    rw [eq_finish_of_loadTrigger hgoto htag hload, hchildren]
    exact List.mem_singleton_self only
  · rw [heq] at h
    obtain ⟨found, hcard, h⟩ := Except.bind_eq_ok_iff.1 h
    cases found with
    | none => cases h
    | some card =>
        cases h
        exact (isCard_of_firstCard hcard).1

/-- Without gotos every way from a card leads to a larger number. -/
theorem lt_of_leads (hordered : d.InReadingOrder) (hgoto : d.HasNoGoto) {r next : d.Ref}
    {context : Context} (h : d.Leads table r context next) : r < next := by
  cases h with
  | choice _ _ hmem hresolve =>
      -- Into the branch: from the card to a choice among its children, and on to a child of that.
      have hchoice := d.lt_of_mem_children (mem_choicesIn.1 hmem).1
      exact Nat.lt_trans hchoice
        (d.lt_of_mem_children (mem_children_of_resolveBranch hgoto hresolve))
  | onward _ _ _ _ hfall =>
      rw [value_fallThrough_eq] at hfall
      obtain ⟨level, hlevel, hnext⟩ := exists_level_of_onward? hfall
      exact lt_of_standsIn hordered (standsIn_of_mem_levels hlevel) hnext
  | event _ _ hfind _ hresolve =>
      have hmem := List.mem_of_find?_eq_some hfind
      have hevent := d.lt_of_mem_children (mem_eventsFor.1 hmem).1
      exact Nat.lt_trans hevent
        (d.lt_of_mem_children (mem_children_of_resolveBranch hgoto hresolve))

end Document

namespace Session

open Document

variable {d : Document} {table : Encounters}

/-- The number of calls of a run that succeed. -/
def successes (session : Session) : List Call → Nat
  | [] => 0
  | call :: rest =>
    (if (session.answerTo call).isOk then 1 else 0) + (session.after call).successes rest

/-- The number of nodes that are left, from the one that the session is at to the last. -/
def nodesLeft (session : Session) : Nat :=
  match session.node with
  | none => 0
  | some r => session.document.size - r

theorem nodesLeft_le_size (session : Session) : session.nodesLeft ≤ session.document.size := by
  unfold nodesLeft
  split
  · exact Nat.zero_le _
  · exact Nat.sub_le _ _

/-- Without gotos a call that succeeds ends the quest or goes forward. -/
theorem forward_of_answerTo (hordered : d.InReadingOrder) (hgoto : d.HasNoGoto)
    {node : Option d.Ref} {context : Context} {call : Call} {next : Session}
    (h : answerTo ⟨d, table, node, context⟩ call = .ok next) :
    ∃ r last context', node = some r ∧ next = ⟨d, table, last, context'⟩ ∧
      ∀ target, last = some target → r < target := by
  obtain ⟨r, context', onward, last, hnode, -, hleads, hfollow, rfl⟩ := leads_of_answerTo h
  refine ⟨r, last, context', hnode, rfl, ?_⟩
  rintro target rfl
  cases onward with
  | none => cases followTriggers_none hfollow
  | some first =>
      rw [eq_of_settles hgoto (followTriggers_eq_some_iff.1 hfollow)]
      exact lt_of_leads hordered hgoto (hleads first rfl)

theorem nodesLeft_lt_of_answerTo (hordered : d.InReadingOrder) (hgoto : d.HasNoGoto)
    {node : Option d.Ref} {context : Context} {call : Call} {next : Session}
    (h : answerTo ⟨d, table, node, context⟩ call = .ok next) :
    next.nodesLeft < nodesLeft ⟨d, table, node, context⟩ := by
  obtain ⟨r, last, context', rfl, rfl, hforward⟩ := forward_of_answerTo hordered hgoto h
  have hr : r < d.size := r.isLt
  cases last with
  | none => exact Nat.sub_pos_of_lt hr
  | some target =>
      have hlt : r.val < target.val := hforward target rfl
      exact Nat.sub_lt_sub_left hr hlt

theorem successes_le_nodesLeft (hordered : d.InReadingOrder) (hgoto : d.HasNoGoto)
    (node : Option d.Ref) (context : Context) (calls : List Call) :
    successes ⟨d, table, node, context⟩ calls ≤ nodesLeft ⟨d, table, node, context⟩ := by
  induction calls generalizing node context with
  | nil => exact Nat.zero_le _
  | cons call rest ih =>
      rw [successes, after]
      cases hanswer : answerTo ⟨d, table, node, context⟩ call with
      | error fault => simpa [Except.isOk, Except.toBool] using ih node context
      | ok next =>
          have hlt := nodesLeft_lt_of_answerTo hordered hgoto hanswer
          obtain ⟨r, last, context', -, rfl, -⟩ := forward_of_answerTo hordered hgoto hanswer
          have hrest := ih last context'
          simp only [Except.isOk, Except.toBool, if_true]
          omega

/-- Without gotos every call of a run that succeeds ends the quest or goes to a node with a larger
number, and there are at most as many of them as the document has nodes. -/
theorem forward_of_hasNoGoto {text : String} {d : Document} {table : Encounters}
    {session : Session} (hread : Document.read text = .ok d) (hgoto : d.HasNoGoto)
    (hopened : Opened d table session) (calls : List Call) :
    (∀ call next, (session.play calls).answerTo call = .ok next →
      ∃ i, (session.play calls).snapshot.node = some i ∧
        (next.isEnded = true ∨ ∃ j, next.snapshot.node = some j ∧ i < j)) ∧
    session.successes calls ≤ d.size := by
  have hordered := inReadingOrder_of_read hread
  have hplay (calls : List Call) : RestsAt d table (fun _ => True) (session.play calls) :=
    restsAt_play (fun _ _ => trivial) (fun _ _ _ _ _ => trivial) (fun _ _ _ _ _ _ _ => trivial)
      hopened calls
  refine ⟨?_, ?_⟩
  · intro call next hnext
    obtain ⟨node, context, heq, -⟩ := hplay calls
    rw [heq] at hnext ⊢
    obtain ⟨r, last, context', rfl, rfl, hforward⟩ := forward_of_answerTo hordered hgoto hnext
    refine ⟨r, rfl, ?_⟩
    cases last with
    | none => exact Or.inl rfl
    | some target => exact Or.inr ⟨target, rfl, hforward target rfl⟩
  · obtain ⟨node, context, rfl, -⟩ := hplay []
    exact Nat.le_trans (successes_le_nodesLeft hordered hgoto node context calls)
      (nodesLeft_le_size _)

/-- A piece of story within a choice, with another piece of story and the end behind both. -/
def stairs : String :=
  "<quest><roleplay><choice text='up'><roleplay/></choice></roleplay><roleplay/>" ++
    "<trigger>end</trigger></quest>"

/-- Going up, out of the choice again and on to the end takes three calls. -/
theorem forward_of_hasNoGoto_stairs :
    ∃ d session, Document.read stairs = .ok d ∧ d.HasNoGoto ∧ Opened d .empty session ∧
      session.successes [.choose 0, .choose 0, .resolve "win", .choose 0, .choose 0] = 3 ∧
      3 ≤ d.size ∧
      ∃ next i, (session.play [.choose 0]).answerTo (.choose 0) = .ok next ∧
        (session.play [.choose 0]).snapshot.node = some i ∧
        (next.isEnded = true ∨ ∃ j, next.snapshot.node = some j ∧ i < j) := by
  have hresult : (Document.read stairs).toOption.map (fun d =>
      (decide d.HasNoGoto, (start d .empty .empty).answer.toOption.map fun session =>
        (session.successes [.choose 0, .choose 0, .resolve "win", .choose 0, .choose 0],
          ((session.play [.choose 0]).answerTo (.choose 0)).isOk))) =
      some (true, some (3, true)) := by
    decide +kernel
  cases hread : Document.read stairs with
  | error fault =>
      rw [hread] at hresult
      cases hresult
  | ok d =>
      rw [hread] at hresult
      obtain ⟨hgoto, hstarts⟩ := Prod.mk.inj (Option.some.inj hresult)
      have hgoto := of_decide_eq_true hgoto
      cases hstart : (start d .empty .empty).answer with
      | error fault =>
          rw [hstart] at hstarts
          cases hstarts
      | ok session =>
          rw [hstart] at hstarts
          obtain ⟨hcount, hmoves⟩ := Prod.mk.inj (Option.some.inj hstarts)
          obtain ⟨next, hnext⟩ := Except.isOk_iff.1 hmoves
          have hopened : Opened d .empty session := .start hstart
          have hbound := (forward_of_hasNoGoto hread hgoto hopened
            [.choose 0, .choose 0, .resolve "win", .choose 0, .choose 0]).2
          rw [hcount] at hbound
          obtain ⟨i, hi, hforward⟩ :=
            (forward_of_hasNoGoto hread hgoto hopened [.choose 0]).1 _ next hnext
          exact ⟨d, session, rfl, hgoto, hopened, hcount, hbound, next, i, hnext, hi, hforward⟩

end Session

end Gamebook
