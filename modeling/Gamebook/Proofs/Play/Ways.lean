import Gamebook.Proofs.Play.Answers
import Gamebook.Proofs.Result
import Gamebook.Session

/-! # Ways from card to card

What takes part in a context is a list of nodes, and every look-up of play is a look-up in such a
list. `answer_takeChoice` and `answer_takeEvent` say so for the two inputs of a player, and
`answer_firstCard` for the visit of the children of a branch. `isCard_or_goto_of_resolveBranch` says
where a branch can lead and `concernsWay_of_resolveBranch` how it can fail.
-/

namespace Gamebook

/-- The causes with which the way to the next card can fail. -/
def Cause.concernsWay : Cause → Bool
  | .missingTarget _ | .invalidTrigger _ | .branchInBranch _ | .branchWithoutCard
  | .endlessTriggers _ => true
  | _ => false

/-- The codes of the causes with which the way can fail. -/
theorem Cause.code_mem_of_concernsWay {cause : Cause} (h : cause.concernsWay = true) :
    cause.code ∈ ["TRIGGER_GOTO_TARGET_MISSING", "TRIGGER_INVALID", "CONTAINER_NESTED_BRANCH",
      "CONTAINER_NO_CARD", "SESSION_GOTO_LOOP"] := by
  cases cause <;> simp_all [concernsWay, code]

namespace Document

variable (d : Document)

/-- Whether a node takes part. -/
def takesPart (context : Context) (r : d.Ref) : Bool :=
  (d.isEnabled r context).value

/-- The context within a card, after its state block. -/
def contextWithin (r : d.Ref) (context : Context) : Context :=
  (d.updateContext r context).value

/-- The choices of a node that take part, in order. -/
def choicesIn (r : d.Ref) (context : Context) : List d.Ref :=
  (d.children r).filter fun child => d.tag child == .choice && d.takesPart context child

/-- The events of a node for the named outcome, in order, whether they take part or not. -/
def eventsFor (r : d.Ref) (name : String) : List d.Ref :=
  (d.children r).filter fun child =>
    d.tag child == .event && (d.node child).outcome? == some name

/-- Whether a node holds a trigger that ends the quest and takes part. -/
def endsWithin (r : d.Ref) (context : Context) : Bool :=
  (d.children r).any fun child => (d.node child).isEndTrigger && d.takesPart context child

/-- Whether a child decides where a branch leads: it is a branch, or a card that takes part. -/
def decides (context : Context) (child : d.Ref) : Bool :=
  (d.tag child).isBranch || ((d.tag child).isCard && d.takesPart context child)

variable {d}

@[simp]
theorem mem_choicesIn {r child : d.Ref} {context : Context} :
    child ∈ d.choicesIn r context ↔
      child ∈ d.children r ∧ d.tag child = .choice ∧ d.takesPart context child = true := by
  simp [choicesIn]

@[simp]
theorem mem_eventsFor {r child : d.Ref} {name : String} :
    child ∈ d.eventsFor r name ↔
      child ∈ d.children r ∧ d.tag child = .event ∧ (d.node child).outcome? = some name := by
  simp [eventsFor]

@[simp]
theorem value_isEnabled (r : d.Ref) (context : Context) :
    (d.isEnabled r context).value = d.takesPart context r := rfl

@[simp]
theorem value_updateContext (r : d.Ref) (context : Context) :
    (d.updateContext r context).value = d.contextWithin r context := rfl

@[simp]
theorem value_hasEndTrigger (r : d.Ref) (context : Context) :
    (d.hasEndTrigger r context).value = d.endsWithin r context := by
  rw [hasEndTrigger, Logged.value_anyM]
  unfold endsWithin
  congr 1
  funext child
  cases (d.node child).isEndTrigger <;> rfl

@[simp]
theorem value_nextSibling (r : d.Ref) (context : Context) :
    (d.nextSibling r context).value = (d.followers r).find? (d.takesPart context) :=
  Logged.value_findM? _ _

/-- Falling through goes to the node beside a node if there is one, and else outward. -/
theorem value_fallThrough (r : d.Ref) (context : Context) :
    (d.fallThrough r context).value =
      match (d.followers r).find? (d.takesPart context) with
      | some next => some next
      | none =>
        match d.enclosing? r with
        | some outer => (d.fallThrough outer context).value
        | none => none := by
  rw [fallThrough, Logged.value_bind, value_nextSibling]
  cases (d.followers r).find? (d.takesPart context) with
  | some next => rfl
  | none =>
      dsimp only
      split
      next outer h => rw [h]
      next h => rw [h]; rfl

@[simp]
theorem value_findChoice (r : d.Ref) (index : Nat) (context : Context) :
    (d.findChoice r index context).value = (d.choicesIn r context)[index]? := by
  rw [findChoice, Logged.value_findAtM?]
  unfold choicesIn
  congr 2
  funext child
  rw [Logged.value_ite]
  by_cases h : d.tag child = .choice <;> simp [h]

/-- A choice that takes part is resolved; past the last one play ends or goes on beside the node. -/
theorem answer_takeChoice (r : d.Ref) (index : Nat) (context : Context) :
    (d.takeChoice r index context).answer =
      match (d.choicesIn r context)[index]? with
      | some choice => (d.resolveBranch choice context).answer.map some
      | none =>
        .ok (if d.endsWithin r context then none
          else (d.followers r).find? (d.takesPart context)) := by
  simp only [takeChoice, Play.answer_bind, Play.answer_liftM, value_findChoice, Except.bind]
  cases (d.choicesIn r context)[index]? with
  | some choice =>
      simp only [Play.answer_bind, Play.answer_write, Except.bind]
      cases (d.resolveBranch choice context).answer <;> rfl
  | none =>
      simp only [Play.answer_bind, Play.answer_liftM, value_hasEndTrigger, Except.bind]
      cases d.endsWithin r context with
      | true => rfl
      | false => simp

/-- The event that is found is the first for its outcome that takes part. -/
theorem answer_findEvent (r : d.Ref) (name : String) (context : Context) :
    (d.findEvent r name context).answer =
      match (d.eventsFor r name).find? (d.takesPart context) with
      | some event => .ok event
      | none => .error (d.faultAt r (.missingEvent name)) := by
  have hquestion (child : d.Ref) :
      Play.answer (if d.tag child = .event ∧ (d.node child).outcome? = some name
        then liftM (d.isEnabled child context) else liftM (pure false : Logged Bool)) =
        .ok (d.tag child == .event && (d.node child).outcome? == some name &&
          d.takesPart context child) := by
    by_cases h : d.tag child = .event ∧ (d.node child).outcome? = some name
    · simp [h]
    · rw [if_neg h, Play.answer_liftM, Logged.value_pure, Bool.and_assoc]
      simp_all
  rw [findEvent, Play.answer_bind, Play.answer_findM? hquestion, eventsFor, List.find?_filter]
  simp only [Bool.decide_and, Bool.decide_eq_true]
  generalize List.find? _ _ = found
  cases found <;> rfl

theorem answer_findEvent_eq_ok_iff {r event : d.Ref} {name : String} {context : Context} :
    (d.findEvent r name context).answer = .ok event ↔
      (d.eventsFor r name).find? (d.takesPart context) = some event := by
  rw [answer_findEvent]
  generalize List.find? _ _ = found
  cases found <;> simp

theorem answer_takeEvent (r : d.Ref) (name : String) (context : Context) :
    (d.takeEvent r name context).answer =
      (d.findEvent r name context).answer.bind fun event =>
        (d.resolveBranch event context).answer := by
  simp [takeEvent, Except.bind]

theorem answer_eventParameters (r : d.Ref) (name : String) (context : Context) :
    (d.eventParameters r name context).answer =
      (d.findEvent r name context).answer.bind fun event =>
        (d.node event).eventParameters.mapError (d.faultAt event) := by
  rw [eventParameters, Play.answer_bind]
  congr 1
  funext event
  cases (d.node event).eventParameters <;> rfl

/-! ## Visits of children -/

theorem childNamed?_eq_find? (r : d.Ref) (name : String) :
    d.childNamed? r name = (d.children r).find? fun child => (d.tag child).element = name := by
  rw [childNamed?, visitChildren, List.idRun_findSomeM?, ← List.findSome?_guard]
  congr 1
  funext child
  simp [Option.guard]

/-- A name that stops the search counts like the name that is searched for, until one is met. -/
theorem childNamedBefore?_eq_match (r : d.Ref) (name stop : String) :
    d.childNamedBefore? r name stop =
      match (d.children r).find? fun child => (d.tag child).element ∈ [name, stop] with
      | none => .ok none
      | some child => if (d.tag child).element = stop then .error child else .ok (some child) := by
  have hvisit (child : d.Ref) : (if (d.tag child).element = stop then Except.error child
        else .ok (if (d.tag child).element = name then some child else none)) =
      if decide ((d.tag child).element ∈ [name, stop]) then
        if (d.tag child).element = stop then .error child else .ok (some child)
      else .ok none := by
    by_cases hstop : (d.tag child).element = stop
    · simp [hstop]
    · by_cases hname : (d.tag child).element = name <;> simp [hstop, hname]
  rw [childNamedBefore?, visitChildren, funext hvisit, Except.findSomeM?_ite]
  · cases (d.children r).find? fun child => (d.tag child).element ∈ [name, stop] <;> rfl
  · intro child
    split <;> simp

theorem value_enabledCard? (context : Context) (child : d.Ref) :
    (d.enabledCard? context child).value =
      if (d.tag child).isCard && d.takesPart context child then some child else none := by
  rw [enabledCard?, Logged.value_ite, Logged.value_bind, value_isEnabled, Logged.value_ite]
  cases (d.tag child).isCard <;> rfl

theorem answer_cardOfBranch? (branch : d.Ref) (context : Context) (child : d.Ref) :
    (d.cardOfBranch? branch context child).answer =
      if d.decides context child then
        if (d.tag child).isBranch then .error (d.faultAt child (.branchInBranch (d.tag branch)))
        else .ok (some child)
      else .ok none := by
  rw [cardOfBranch?, Play.answer_ite, Play.answer_liftM, value_enabledCard?, decides]
  cases (d.tag child).isBranch with
  | true => rfl
  | false => cases ((d.tag child).isCard && d.takesPart context child) <;> rfl

/-- The search for a card stops at the first child that decides. -/
theorem answer_firstCard (branch : d.Ref) (context : Context) :
    (d.firstCard branch context).answer =
      match (d.children branch).find? (d.decides context) with
      | none => .ok none
      | some child =>
        if (d.tag child).isBranch then
          .error (d.faultAt child (.branchInBranch (d.tag branch)))
        else .ok (some child) := by
  rw [firstCard, visitChildren, Play.answer_findSomeM?,
    funext (answer_cardOfBranch? branch context), Except.findSomeM?_ite]
  · cases (d.children branch).find? (d.decides context) <;> rfl
  · intro child
    split <;> simp

/-- The card that a branch leads into is a card among its children. -/
theorem isCard_of_firstCard {branch card : d.Ref} {context : Context}
    (h : (d.firstCard branch context).answer = .ok (some card)) :
    card ∈ d.children branch ∧ (d.tag card).isCard = true := by
  rw [answer_firstCard] at h
  split at h
  · cases h
  next child hfind =>
    split at h
    · cases h
    next hbranch =>
      cases h
      have hdecides := List.find?_some hfind
      simp only [decides, Bool.or_eq_true, Bool.and_eq_true, hbranch, Bool.false_eq_true,
        false_or] at hdecides
      exact ⟨List.mem_of_find?_eq_some hfind, hdecides.1⟩

theorem concernsWay_of_firstCard {branch : d.Ref} {context : Context} {fault : Fault}
    (h : (d.firstCard branch context).answer = .error fault) :
    fault.cause.concernsWay = true := by
  rw [answer_firstCard] at h
  split at h
  · cases h
  · split at h
    · cases h
      rfl
    · cases h

/-- A quest begins with its first card that takes part. -/
theorem value_firstEnabledCard (context : Context) :
    (d.firstEnabledCard context).value =
      (d.children d.root).find? fun child =>
        (d.tag child).isCard && d.takesPart context child := by
  rw [firstEnabledCard, visitChildren, Logged.value_findSomeM?]
  simp only [value_enabledCard?]
  exact List.findSome?_guard ..

/-! ## Branches -/

theorem concernsWay_of_loadTrigger {r : d.Ref} {fault : Fault}
    (h : d.loadTrigger r = .error fault) : fault.cause.concernsWay = true := by
  unfold loadTrigger at h
  dsimp only at h
  split at h
  · cases h
  · split at h
    · cases h
      rfl
    · split at h
      · cases h
      · cases h
        rfl

/-- A branch is resolved by a trigger that it holds alone, or else by its first card. -/
theorem answer_resolveBranch (r : d.Ref) (context : Context) :
    (∃ only, d.children r = [only] ∧ d.tag only = .trigger ∧
      (d.resolveBranch r context).answer = (d.loadTrigger only).map Trigger.target) ∨
    (d.resolveBranch r context).answer =
      (d.firstCard r context).answer.bind fun
        | some card => .ok card
        | none => .error (d.faultAt r .branchWithoutCard) := by
  have hcard : (resolveBranch.intoCard d r context).answer =
      (d.firstCard r context).answer.bind fun
        | some card => .ok card
        | none => .error (d.faultAt r .branchWithoutCard) := by
    rw [resolveBranch.intoCard, Play.answer_bind]
    congr 1
    funext found
    cases found <;> rfl
  unfold resolveBranch
  split
  next only hchildren =>
    by_cases htag : d.tag only = .trigger
    · left
      refine ⟨only, hchildren, htag, ?_⟩
      rw [if_pos htag]
      cases d.loadTrigger only <;> simp
    · right
      rw [if_neg htag]
      exact hcard
  next => exact Or.inr hcard

theorem concernsWay_of_resolveBranch {r : d.Ref} {context : Context} {fault : Fault}
    (h : (d.resolveBranch r context).answer = .error fault) :
    fault.cause.concernsWay = true := by
  rcases answer_resolveBranch r context with ⟨only, -, -, heq⟩ | heq
  · rw [heq, Except.map_eq_error_iff] at h
    exact concernsWay_of_loadTrigger h
  · rw [heq, Except.bind_eq_error_iff] at h
    rcases h with hcard | ⟨found, -, h⟩
    · exact concernsWay_of_firstCard hcard
    · cases found with
      | some card => cases h
      | none =>
          cases h
          rfl

/-- A trigger that ends the quest answers with itself. -/
theorem target_of_loadTrigger_finish {r target : d.Ref}
    (h : d.loadTrigger r = .ok ⟨target, .finish⟩) : target = r := by
  unfold loadTrigger at h
  dsimp only at h
  split at h
  · cases h
    rfl
  · split at h
    · cases h
    · split at h <;> cases h

/-- A branch leads to a card or to what a trigger goes to, and nowhere else. -/
theorem isCard_or_goto_of_resolveBranch {r next : d.Ref} {context : Context}
    (h : (d.resolveBranch r context).answer = .ok next) :
    (d.tag next).isCard = true ∨
      ∃ trigger, d.tag trigger = .trigger ∧ d.loadTrigger trigger = .ok ⟨next, .goto⟩ := by
  rcases answer_resolveBranch r context with ⟨only, -, htag, heq⟩ | heq
  · rw [heq] at h
    obtain ⟨⟨target, kind⟩, hload, rfl⟩ := Except.map_eq_ok_iff.1 h
    cases kind with
    | finish =>
        left
        rw [target_of_loadTrigger_finish hload, htag]
        rfl
    | goto => exact Or.inr ⟨only, htag, hload⟩
  · rw [heq] at h
    obtain ⟨found, hcard, h⟩ := Except.bind_eq_ok_iff.1 h
    cases found with
    | none => cases h
    | some card =>
        cases h
        exact Or.inl (isCard_of_firstCard hcard).2

end Document

end Gamebook
