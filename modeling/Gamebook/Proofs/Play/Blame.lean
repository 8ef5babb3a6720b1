import Gamebook.Proofs.Document.Order
import Gamebook.Proofs.Play.Combat
import Gamebook.Proofs.Play.GoingOn

/-! # Where play fails

What fails when a node is loaded or a way from it is taken fails at the node or at one within it,
with a cause that concerns nodes. `failsWithin_loadStep`, `failsWithin_takeChoice` and
`failsWithin_takeEvent` say so, and `failsWithin_eventParameters` of what an event gives.
-/

namespace Gamebook

/-- The causes of the faults that are found at a node. -/
def Cause.concernsNode : Cause → Bool
  | .notACard _ | .missingEvent _ | .invalidHeal _ | .combatChild _ | .combatWithoutOutcome _
  | .combatWithoutEnemies | .choiceWithoutText | .roleplayEvent | .roleplayChild _
  | .roleplayTrigger | .missingTarget _ | .invalidTrigger _ | .branchInBranch _
  | .branchWithoutCard => true
  | _ => false

theorem Page.concernsNode_of_add {page : Page} {context : Context} {node : Node} {cause : Cause}
    (h : page.add context node = .error cause) : cause.concernsNode = true := by
  unfold add at h
  split at h
  case h_3 =>
    split at h <;> cases h
    rfl
  case h_4 =>
    split at h <;> cases h
    rfl
  all_goals
    cases h
    try rfl

theorem Roster.concernsNode_of_add {roster : Roster} {table : Encounters} {context : Context}
    {isState : Bool} {node : Node} {cause : Cause}
    (h : roster.add table context isState node = .error cause) : cause.concernsNode = true := by
  unfold add at h
  split at h
  case h_3 =>
    split at h <;> cases h
    rfl
  all_goals
    cases h
    try rfl

theorem Roster.concernsNode_of_lack? {roster : Roster} {cause : Cause}
    (h : roster.lack? = some cause) : cause.concernsNode = true := by
  unfold lack? at h
  split at h
  · cases h
    rfl
  · split at h
    · cases h
      rfl
    · split at h <;> cases h
      rfl

theorem Node.concernsNode_of_eventParameters {node : Node} {cause : Cause}
    (h : node.eventParameters = .error cause) : cause.concernsNode = true := by
  unfold eventParameters at h
  dsimp only at h
  split at h
  · cases h
  · split at h <;> cases h
    rfl

namespace Document

variable {d : Document} {α β : Type}

/-- If an answer is a fault, then it is that of a node which is the given one or stands in it. -/
def FailsWithin (r : d.Ref) (answer : Except Fault α) : Prop :=
  ∀ fault, answer = .error fault →
    ∃ s : d.Ref, d.StandsIn s r ∧ ∃ cause, cause.concernsNode = true ∧ fault = d.faultAt s cause

theorem failsWithin_ok (r : d.Ref) (a : α) : FailsWithin r (.ok a) := by
  intro fault h
  cases h

theorem failsWithin_error {r s : d.Ref} (hs : d.StandsIn s r) {cause : Cause}
    (hcause : cause.concernsNode = true) :
    FailsWithin r (.error (d.faultAt s cause) : Except _ α) := by
  intro fault h
  cases h
  exact ⟨s, hs, cause, hcause, rfl⟩

theorem failsWithin_mapError {r s : d.Ref} (hs : d.StandsIn s r) {x : Except Cause α}
    (hx : ∀ cause, x = .error cause → cause.concernsNode = true) :
    FailsWithin r (x.mapError (d.faultAt s)) := by
  cases x with
  | ok a => exact failsWithin_ok r a
  | error cause => exact failsWithin_error hs (hx cause rfl)

theorem FailsWithin.bind {r : d.Ref} {x : Except Fault α} {f : α → Except Fault β}
    (hx : FailsWithin r x) (hf : ∀ a, x = .ok a → FailsWithin r (f a)) :
    FailsWithin r (x.bind f) := by
  cases x with
  | ok a => exact hf a rfl
  | error fault =>
      intro other h
      cases h
      exact hx fault rfl

theorem FailsWithin.map {r : d.Ref} {x : Except Fault α} (hx : FailsWithin r x) (f : α → β) :
    FailsWithin r (x.map f) := by
  intro fault h
  exact hx fault (Except.map_eq_error_iff.1 h)

theorem FailsWithin.foldlM {γ : Type} {r : d.Ref} {f : β → γ → Except Fault β} {xs : List γ}
    (hf : ∀ a ∈ xs, ∀ b, FailsWithin r (f b a)) (b : β) : FailsWithin r (xs.foldlM f b) := by
  induction xs generalizing b with
  | nil => exact failsWithin_ok r b
  | cons a rest ih =>
      rw [List.foldlM_cons]
      refine (hf a List.mem_cons_self b).bind ?_
      intro next _
      exact ih (fun a ha => hf a (List.mem_cons_of_mem _ ha)) next

/-- What fails within a node fails within the nodes around it. -/
theorem FailsWithin.outward {r outer : d.Ref} {x : Except Fault α} (hx : FailsWithin r x)
    (h : d.StandsIn r outer) : FailsWithin outer x := by
  intro fault hfault
  obtain ⟨s, hs, hcause⟩ := hx fault hfault
  exact ⟨s, hs.trans h, hcause⟩

/-! ## Loading -/

theorem failsWithin_loadRoleplay (r : d.Ref) (context : Context) :
    FailsWithin r (d.loadRoleplay r context).answer := by
  rw [answer_loadRoleplay]
  refine FailsWithin.map (FailsWithin.foldlM ?_ _) _
  intro child hchild page
  exact failsWithin_mapError (standsIn_of_mem_children (List.mem_filter.1 hchild).1)
    fun cause => Page.concernsNode_of_add

theorem failsWithin_loadCombat (table : Encounters) (r : d.Ref) (context : Context) :
    FailsWithin r (d.loadCombat table r context).answer := by
  rw [answer_loadCombat]
  refine FailsWithin.bind (FailsWithin.foldlM ?_ _) ?_
  · intro child hchild roster
    unfold enlist
    split
    · exact failsWithin_mapError (standsIn_of_mem_children (List.fst_mem_of_mem_zipIdx hchild))
        fun cause => Roster.concernsNode_of_add
    · exact failsWithin_ok r roster
  · intro roster _
    cases hlack : roster.lack? with
    | none => exact failsWithin_ok r _
    | some cause => exact failsWithin_error .refl (Roster.concernsNode_of_lack? hlack)

theorem failsWithin_loadTrigger (r : d.Ref) : FailsWithin r (d.loadTrigger r) := by
  unfold loadTrigger
  dsimp only
  split
  · exact failsWithin_ok r _
  · split
    · exact failsWithin_error .refl rfl
    · split
      · exact failsWithin_ok r _
      · exact failsWithin_error .refl rfl

/-- What fails when play arrives at a node fails within the node. -/
theorem failsWithin_loadStep (table : Encounters) (r : d.Ref) (context : Context) :
    FailsWithin r (d.loadStep table r context).answer := by
  unfold loadStep
  split
  · rw [Play.answer_bind]
    exact (failsWithin_loadCombat table r context).bind fun step _ => failsWithin_ok r _
  · rw [Play.answer_bind]
    exact (failsWithin_loadRoleplay r context).bind fun step _ => failsWithin_ok r _
  · rw [Play.answer_bind, Play.answer_ofExcept]
    exact (failsWithin_loadTrigger r).bind fun trigger _ => failsWithin_ok r _
  · exact failsWithin_error .refl rfl

/-! ## Ways on -/

theorem failsWithin_findEvent (r : d.Ref) (name : String) (context : Context) :
    FailsWithin r (d.findEvent r name context).answer := by
  rw [answer_findEvent]
  split
  · exact failsWithin_ok r _
  · exact failsWithin_error .refl rfl

theorem standsIn_of_findEvent {r event : d.Ref} {name : String} {context : Context}
    (h : (d.findEvent r name context).answer = .ok event) : d.StandsIn event r :=
  standsIn_of_mem_children
    (mem_eventsFor.1 (List.mem_of_find?_eq_some (answer_findEvent_eq_ok_iff.1 h))).1

/-- What fails when the gifts of an event are read fails within the node that the event belongs
to. -/
theorem failsWithin_eventParameters (r : d.Ref) (name : String) (context : Context) :
    FailsWithin r (d.eventParameters r name context).answer := by
  rw [answer_eventParameters]
  refine (failsWithin_findEvent r name context).bind ?_
  intro event hevent
  exact failsWithin_mapError (standsIn_of_findEvent hevent)
    fun cause => Node.concernsNode_of_eventParameters

theorem failsWithin_firstCard (r : d.Ref) (context : Context) :
    FailsWithin r (d.firstCard r context).answer := by
  rw [answer_firstCard]
  split
  · exact failsWithin_ok r none
  next child hfind =>
    have hchild := standsIn_of_mem_children (List.mem_of_find?_eq_some hfind)
    split
    · exact failsWithin_error hchild rfl
    · exact failsWithin_ok r _

theorem failsWithin_resolveBranch (r : d.Ref) (context : Context) :
    FailsWithin r (d.resolveBranch r context).answer := by
  rcases answer_resolveBranch r context with ⟨only, hchildren, -, heq⟩ | heq
  · have honly : only ∈ d.children r := hchildren ▸ List.mem_cons_self
    rw [heq]
    exact ((failsWithin_loadTrigger only).outward (standsIn_of_mem_children honly)).map _
  · rw [heq]
    refine (failsWithin_firstCard r context).bind ?_
    intro card _
    cases card with
    | some card => exact failsWithin_ok r card
    | none => exact failsWithin_error .refl rfl

/-- What fails when a choice is taken fails within the node that is left. -/
theorem failsWithin_takeChoice (r : d.Ref) (index : Nat) (context : Context) :
    FailsWithin r (d.takeChoice r index context).answer := by
  rw [answer_takeChoice]
  split
  next choice hchoice =>
    have hwithin := standsIn_of_mem_children (mem_choicesIn.1 (List.mem_of_getElem? hchoice)).1
    exact ((failsWithin_resolveBranch choice context).outward hwithin).map _
  next => exact failsWithin_ok r _

/-- What fails when an event is taken fails within the node that is left. -/
theorem failsWithin_takeEvent (r : d.Ref) (name : String) (context : Context) :
    FailsWithin r (d.takeEvent r name context).answer := by
  rw [answer_takeEvent]
  refine (failsWithin_findEvent r name context).bind ?_
  intro event hevent
  exact (failsWithin_resolveBranch event context).outward (standsIn_of_findEvent hevent)

end Document

end Gamebook
