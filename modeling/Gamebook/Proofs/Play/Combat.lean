import Gamebook.Proofs.Play.Ways

/-! # What a combat provides for

A combat counts its events for each outcome within its own state block, and is not shown if there
are none. `exists_event_of_loadCombat` says that a combat that is shown has an event for each
outcome which takes part there.
-/

namespace Gamebook

namespace Roster

/-- The number of events for an outcome. -/
def count (roster : Roster) : Outcome → Nat
  | .win => roster.wins
  | .lose => roster.losses

/-- An event for an outcome counts once, and nothing else changes the number of events. -/
theorem count_of_add {roster next : Roster} {table : Encounters} {context : Context}
    {isState : Bool} {node : Node} (h : roster.add table context isState node = .ok next)
    (outcome : Outcome) :
    next.count outcome = roster.count outcome +
      if node.tag = .event ∧ node.outcome? = some outcome.name then 1 else 0 := by
  unfold add at h
  split at h
  case h_1 htag =>
    cases h
    cases outcome <;> simp [htag, count]
  case h_2 htag =>
    cases h
    unfold addEvent
    split
    next hwin => cases outcome <;> simp [htag, hwin, count, Outcome.name]
    next hwin =>
      split
      next hlose => cases outcome <;> simp [htag, hlose, count, Outcome.name]
      next hlose =>
        -- An event for anything else is passed over.
        cases outcome <;> simp [hwin, hlose]
  case h_3 htag =>
    split at h
    · cases h
      simp [htag]
    · cases h
  case h_4 => cases h

/-- A combat that lacks nothing has events for each outcome. -/
theorem count_pos_of_lack {roster : Roster} (h : roster.lack? = none) (outcome : Outcome) :
    0 < roster.count outcome := by
  unfold lack? at h
  split at h
  · cases h
  next hwins =>
    split at h
    · cases h
    next hlosses =>
      cases outcome with
      | win => exact Nat.pos_of_ne_zero hwins
      | lose => exact Nat.pos_of_ne_zero hlosses

end Roster

namespace Document

variable {d : Document}

/-- Adds a child of a combat if it takes part. -/
def enlist (d : Document) (table : Encounters) (context : Context) (stateCount : Nat)
    (roster : Roster) (child : d.Ref × Nat) : Except Fault Roster :=
  if d.takesPart context child.1 then
    (roster.add table context (child.2 < stateCount) (d.node child.1)).mapError
      (d.faultAt child.1)
  else .ok roster

theorem answer_addToRoster (table : Encounters) (context : Context) (stateCount : Nat)
    (roster : Roster) (child : d.Ref × Nat) :
    (d.addToRoster table context stateCount roster child).answer =
      d.enlist table context stateCount roster child := by
  rw [addToRoster, Play.answer_bind, Play.answer_liftM, value_isEnabled, enlist]
  cases d.takesPart context child.1 with
  | false => rfl
  | true =>
      simp only [Except.bind, if_true]
      cases roster.add table context (child.2 < stateCount) (d.node child.1) <;> rfl

/-- A combat enlists its children in the context that its state block leaves. -/
theorem answer_loadCombat (table : Encounters) (r : d.Ref) (context : Context) :
    (d.loadCombat table r context).answer =
      ((d.children r).zipIdx.foldlM
        (d.enlist table (d.contextWithin r context) (d.stateBlock r).length) Roster.empty).bind
        fun roster =>
          match roster.lack? with
          | some cause => .error (d.faultAt r cause)
          | none => .ok ⟨(d.node r).attribute? "icon", roster.enemies, context⟩ := by
  simp only [loadCombat, Play.answer_bind, Play.answer_liftM, value_updateContext,
    Play.answer_foldlM, answer_addToRoster]
  change Except.bind (List.foldlM _ _ _) _ = Except.bind _ _
  congr 1
  funext roster
  cases roster.lack? <;> rfl

/-- A combat leaves the context as it was, whatever its state block assigns. -/
theorem context_of_loadCombat {table : Encounters} {r : d.Ref} {context : Context}
    {step : CombatStep} (h : (d.loadCombat table r context).answer = .ok step) :
    step.context = context := by
  rw [answer_loadCombat] at h
  obtain ⟨roster, -, hshown⟩ := Except.bind_eq_ok_iff.1 h
  split at hshown
  · cases hshown
  · cases hshown
    rfl

/-- An outcome is counted as often as there are events for it that take part. -/
theorem count_of_foldlM_enlist {table : Encounters} {context : Context} {stateCount : Nat}
    {roster last : Roster} {xs : List (d.Ref × Nat)}
    (h : xs.foldlM (d.enlist table context stateCount) roster = .ok last) (outcome : Outcome) :
    last.count outcome = roster.count outcome + xs.countP fun child =>
      d.takesPart context child.1 && (d.tag child.1 == .event) &&
        ((d.node child.1).outcome? == some outcome.name) := by
  induction xs generalizing roster with
  | nil =>
      cases h
      rfl
  | cons child rest ih =>
      obtain ⟨next, hadd, hrest⟩ := Except.bind_eq_ok_iff.1 h
      rw [ih hrest, List.countP_cons]
      unfold enlist at hadd
      split at hadd
      next hpart =>
        rw [Roster.count_of_add (Except.mapError_eq_ok_iff.1 hadd) outcome, hpart]
        simp only [tag, Bool.true_and, Bool.and_eq_true, beq_iff_eq]
        omega
      next hpart =>
        cases hadd
        simp [hpart]

/-- An outcome is counted at all exactly if an event for it takes part. -/
theorem count_pos_iff_of_foldlM_enlist {table : Encounters} {r : d.Ref} {context : Context}
    {stateCount : Nat} {last : Roster}
    (h : (d.children r).zipIdx.foldlM (d.enlist table context stateCount) Roster.empty = .ok last)
    (outcome : Outcome) :
    0 < last.count outcome ↔
      ∃ event ∈ d.eventsFor r outcome.name, d.takesPart context event = true := by
  have hempty : Roster.empty.count outcome = 0 := by
    cases outcome <;> rfl
  rw [count_of_foldlM_enlist h outcome, hempty, Nat.zero_add, List.countP_pos_iff]
  simp only [Bool.and_eq_true, beq_iff_eq, mem_eventsFor]
  constructor
  · rintro ⟨⟨event, place⟩, hmem, ⟨hpart, htag⟩, houtcome⟩
    exact ⟨event, ⟨List.fst_mem_of_mem_zipIdx hmem, htag, houtcome⟩, hpart⟩
  · rintro ⟨event, ⟨hmem, htag, houtcome⟩, hpart⟩
    obtain ⟨place, hplace⟩ := List.mem_iff_getElem?.1 hmem
    exact ⟨(event, place), List.mem_zipIdx_iff_getElem?.2 hplace, ⟨hpart, htag⟩, houtcome⟩

/-- A combat that is shown has an event for each outcome that takes part within its state block. -/
theorem exists_event_of_loadCombat {table : Encounters} {r : d.Ref} {context : Context}
    {step : CombatStep} (h : (d.loadCombat table r context).answer = .ok step)
    (outcome : Outcome) :
    ∃ event ∈ d.eventsFor r outcome.name, d.takesPart (d.contextWithin r context) event = true := by
  rw [answer_loadCombat] at h
  obtain ⟨roster, hfold, hshown⟩ := Except.bind_eq_ok_iff.1 h
  have hlack : roster.lack? = none := by
    cases hlack : roster.lack? with
    | none => rfl
    | some cause =>
        rw [hlack] at hshown
        cases hshown
  exact (count_pos_iff_of_foldlM_enlist hfold outcome).1 (Roster.count_pos_of_lack hlack outcome)

end Document

end Gamebook
