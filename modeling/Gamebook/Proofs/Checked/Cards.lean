import Gamebook.Proofs.Checked.Lookups
import Gamebook.Proofs.Play.Combat
import Gamebook.Proofs.Play.GoingOn

/-! # Cards by number

Cards are loaded and branches are followed by number, with every look-up checked. On the numbers of
a document nothing is missed: `loadStep_eq` says so of loading, `takeChoice_eq` and `takeEvent_eq`
of the two ways on from a card.
-/

namespace Gamebook.Checked

section

variable (entries : Array Entry)

/-! ## State blocks -/

/-- The number of elements at the beginning of a list that satisfy a condition. -/
def countWhile (p : Nat → Checked Bool) : List Nat → Checked Nat
  | [] => return 0
  | i :: rest => do
    if ← p i then return (← countWhile p rest) + 1 else return 0

/-- The number of nodes in the state block of a node. -/
def stateCount (i : Nat) : Checked Nat := do
  countWhile (ask entries Node.isStateText) (← children entries i)

/-- The state block of a node, cut off its children. There must be enough of them. -/
def stateBlock (i : Nat) : Checked (List Nat) := do
  let count ← stateCount entries i
  let below ← children entries i
  if count ≤ below.length then return below.take count else missing

/-- The context after the state block of a node. -/
def updateContext (context : Context) (i : Nat) : Checked Context := do
  (← stateBlock entries i).foldlM (fun context child =>
    return (applyStateText context (← node entries child)).value) context

/-! ## Pieces of story -/

/-- Adds a child of a piece of story if it takes part. -/
def addToPage (context : Context) (page : Page) (child : Nat) : Checked Page := do
  if ← takesPart entries context child then
    orFail entries child (page.add context (← node entries child))
  else return page

/-- Whether going on from a piece of story without choices ends the quest. -/
def endsAfter (outer inner : Context) (i : Nat) : Checked Bool := do
  let endsHere ← hasEndTrigger entries inner i
  match ← nextSibling entries outer i with
  | some next => return endsHere || (← node entries next).isEndTrigger
  | none => return endsHere

/-- The choices that are offered. -/
def offered (outer inner : Context) (i : Nat) (page : Page) : Checked (List Choice) := do
  if page.choices.isEmpty then return [⟨goOnText (← endsAfter entries outer inner i), 0⟩]
  else return page.choices

/-- The piece of story that a node is. -/
def loadRoleplay (context : Context) (i : Nat) : Checked RoleplayStep := do
  let inner ← updateContext entries context i
  let page ← (← children entries i).foldlM (addToPage entries inner) Page.empty
  let choices ← offered entries context inner i page
  let node ← node entries i
  return ⟨node.attribute? "title", node.attribute? "icon", page.content, choices, inner⟩

/-! ## Combats -/

/-- Adds a child of a combat, which stands at the given place, if it takes part. -/
def addToRoster (table : Encounters) (context : Context) (count : Nat) (roster : Roster)
    (child : Nat × Nat) : Checked Roster := do
  if ← takesPart entries context child.1 then
    orFail entries child.1
      (roster.add table context (child.2 < count) (← node entries child.1))
  else return roster

/-- The combat that a node is. -/
def loadCombat (table : Encounters) (context : Context) (i : Nat) : Checked CombatStep := do
  let inner ← updateContext entries context i
  let count ← stateCount entries i
  let roster ← (← children entries i).zipIdx.foldlM (addToRoster entries table inner count)
    Roster.empty
  match roster.lack? with
  | some cause => fail entries i cause
  | none => return ⟨(← node entries i).attribute? "icon", roster.enemies, context⟩

/-- What comes of arriving at a node. -/
def loadStep (table : Encounters) (context : Context) (i : Nat) : Checked Step := do
  match (← node entries i).tag with
  | .combat => return .combat (← loadCombat entries table context i)
  | .roleplay => return .roleplay (← loadRoleplay entries context i)
  | .trigger => do
    let (target, kind) ← loadTrigger entries i
    return .trigger target kind
  | tag => fail entries i (.notACard tag)

/-! ## Branches -/

/-- The first event of a node that is for the named outcome and takes part. -/
def findEvent (name : String) (context : Context) (i : Nat) : Checked Nat := do
  let found ← (← children entries i).findM? (ask entries fun node =>
    node.tag == .event && node.outcome? == some name && (node.isEnabled context).value)
  match found with
  | some event => return event
  | none => fail entries i (.missingEvent name)

/-- What the event for the named outcome gives to the player. -/
def eventParameters (name : String) (context : Context) (i : Nat) : Checked EventParameters := do
  let event ← findEvent entries name context i
  orFail entries event (← node entries event).eventParameters

/-- The visitor that finds a card that takes part. -/
def enabledCard? (context : Context) (child : Nat) : Checked (Option Nat) := do
  if (← node entries child).tag.isCard then
    if ← takesPart entries context child then return some child
    else return none
  else return none

/-- The first card among the children of a branch that takes part, unless a branch comes first. -/
def firstCard (context : Context) (i : Nat) : Checked (Option Nat) := do
  (← children entries i).findSomeM? fun child => do
    if (← node entries child).tag.isBranch then
      fail entries child (.branchInBranch (← node entries i).tag)
    else enabledCard? entries context child

/-- The first card of a branch. -/
def intoCard (context : Context) (i : Nat) : Checked Nat := do
  match ← firstCard entries context i with
  | some card => return card
  | none => fail entries i .branchWithoutCard

/-- The node that a choice or an event leads to. -/
def resolveBranch (context : Context) (i : Nat) : Checked Nat := do
  match ← children entries i with
  | [only] =>
    if (← node entries only).tag = .trigger then return (← loadTrigger entries only).1
    else intoCard entries context i
  | _ => intoCard entries context i

/-- Where a choice leads. -/
def takeChoice (index : Nat) (context : Context) (i : Nat) : Checked (Option Nat) := do
  let found ← findAtM? (ask entries fun node =>
    node.tag == .choice && (node.isEnabled context).value) index (← children entries i)
  match found with
  | some choice => return some (← resolveBranch entries context choice)
  | none =>
    if ← hasEndTrigger entries context i then return none
    else nextSibling entries context i

/-- Where the event for the named outcome leads. -/
def takeEvent (name : String) (context : Context) (i : Nat) : Checked Nat := do
  resolveBranch entries context (← findEvent entries name context i)

end

/-! ## Nothing is missed -/

theorem countWhile_map {α : Type} {p : Nat → Checked Bool} {q : α → Bool} {number : α → Nat}
    (h : ∀ a, p (number a) = pure (q a)) (xs : List α) :
    countWhile p (xs.map number) = pure (xs.takeWhile q).length := by
  induction xs with
  | nil => rfl
  | cons a rest ih =>
      rw [List.map_cons, countWhile, h, pure_bind, List.takeWhile_cons]
      cases q a with
      | true =>
          rw [if_pos rfl, ih]
          rfl
      | false => rfl

theorem findAtM?_map {α : Type} {p : Nat → Checked Bool} {q : α → Bool} {number : α → Nat}
    (h : ∀ a, p (number a) = pure (q a)) (place : Nat) (xs : List α) :
    findAtM? p place (xs.map number) = pure ((xs.filter q)[place]?.map number) := by
  induction xs generalizing place with
  | nil => rfl
  | cons a rest ih =>
      unfold findAtM?
      rw [List.map_cons]
      dsimp only
      rw [h, pure_bind, List.filter_cons]
      cases q a with
      | true =>
          cases place with
          | zero => rfl
          | succ place => exact ih place
      | false => exact ih place

variable {d : Document}

@[simp]
theorem stateCount_eq (r : d.Ref) : stateCount d.entries r = pure (d.stateBlock r).length := by
  rw [stateCount, children_eq, pure_bind]
  exact countWhile_map (ask_eq _) _

/-- A state block is never longer than the children that it is cut off. -/
@[simp]
theorem stateBlock_eq (r : d.Ref) :
    stateBlock d.entries r = pure ((d.stateBlock r).map Fin.val) := by
  have hbegins : d.stateBlock r <+: d.children r := List.takeWhile_prefix _
  rw [stateBlock, stateCount_eq, pure_bind, children_eq, pure_bind, List.length_map,
    if_pos hbegins.length_le, ← List.map_take]
  congr 2
  exact (List.prefix_iff_eq_take.1 hbegins).symm

@[simp]
theorem updateContext_eq (context : Context) (r : d.Ref) :
    updateContext d.entries context r = pure (d.contextWithin r context) := by
  have hstep : ∀ context (child : d.Ref), (do
      return (applyStateText context (← node d.entries child)).value : Checked Context) =
        found (pure (applyStateText context (d.node child)).value) := by
    intro context child
    rw [node_eq, pure_bind]
    rfl
  rw [updateContext, stateBlock_eq, pure_bind, foldlM_map hstep, List.foldlM_pure,
    Document.contextWithin, Document.updateContext, Logged.value_foldlM]
  rfl

theorem addToPage_eq (context : Context) (page : Page) (child : d.Ref) :
    addToPage d.entries context page child = found (d.addToPage context page child).answer := by
  rw [addToPage, takesPart_eq, pure_bind, node_eq, pure_bind, orFail_eq,
    Document.answer_addToPage]
  cases d.takesPart context child <;> rfl

theorem endsAfter_eq (outer inner : Context) (r : d.Ref) :
    endsAfter d.entries outer inner r = pure (d.endsAfter r outer inner).value := by
  rw [endsAfter, hasEndTrigger_eq, pure_bind, nextSibling_eq, pure_bind,
    Document.value_endsAfter, Document.endAhead]
  cases (d.followers r).find? (d.takesPart outer) with
  | some next =>
      dsimp only [Option.map_some]
      rw [node_eq, pure_bind]
      rfl
  | none => simp

theorem offered_eq (outer inner : Context) (r : d.Ref) (page : Page) :
    offered d.entries outer inner r page = pure (d.offered r outer inner page).value := by
  rw [offered, Document.offered, Logged.value_ite, endsAfter_eq, pure_bind]
  split <;> rfl

/-- Pieces of story load by number as they do in the document. -/
@[simp]
theorem loadRoleplay_eq (context : Context) (r : d.Ref) :
    loadRoleplay d.entries context r = found (d.loadRoleplay r context).answer := by
  rw [loadRoleplay, updateContext_eq, pure_bind, children_eq, pure_bind,
    foldlM_map (addToPage_eq _), Document.loadRoleplay, Play.answer_bind, Play.answer_liftM]
  dsimp only [Except.bind]
  rw [Play.answer_bind, Play.answer_foldlM]
  refine found_bind ?_
  intro page
  rw [offered_eq, pure_bind, node_eq, pure_bind]
  rfl

theorem addToRoster_eq (table : Encounters) (context : Context) (count : Nat) (roster : Roster)
    (child : d.Ref × Nat) :
    addToRoster d.entries table context count roster (Prod.map Fin.val id child) =
      found (d.addToRoster table context count roster child).answer := by
  rw [addToRoster, Prod.map_fst, Prod.map_snd, takesPart_eq, pure_bind, node_eq, pure_bind,
    orFail_eq, Document.answer_addToRoster, Document.enlist]
  cases d.takesPart context child.1 <;> rfl

/-- Combats load by number as they do in the document. -/
@[simp]
theorem loadCombat_eq (table : Encounters) (context : Context) (r : d.Ref) :
    loadCombat d.entries table context r = found (d.loadCombat table r context).answer := by
  rw [loadCombat, updateContext_eq, pure_bind, stateCount_eq, pure_bind, children_eq, pure_bind,
    List.zipIdx_map, foldlM_map (addToRoster_eq _ _ _), Document.loadCombat, Play.answer_bind,
    Play.answer_liftM]
  dsimp only [Except.bind]
  rw [Play.answer_bind, Play.answer_foldlM]
  refine found_bind ?_
  intro roster
  cases roster.lack? with
  | some cause => exact fail_eq r cause
  | none =>
      dsimp only
      rw [node_eq, pure_bind]
      rfl

/-- Nodes load by number as they do in the document. -/
theorem loadStep_eq (table : Encounters) (context : Context) (r : d.Ref) :
    loadStep d.entries table context r = found (d.loadStep table r context).answer := by
  rw [loadStep, node_eq, pure_bind, Document.loadStep, Document.tag]
  cases (d.node r).tag with
  | combat =>
      dsimp only
      rw [loadCombat_eq, Play.answer_bind]
      exact found_bind fun step => rfl
  | roleplay =>
      dsimp only
      rw [loadRoleplay_eq, Play.answer_bind]
      exact found_bind fun step => rfl
  | trigger =>
      dsimp only
      rw [loadTrigger_eq, Play.answer_bind, Play.answer_ofExcept]
      exact found_map_bind fun trigger => rfl
  | _ => exact fail_eq r _

@[simp]
theorem findEvent_eq (name : String) (context : Context) (r : d.Ref) :
    findEvent d.entries name context r =
      found ((d.findEvent r name context).answer.map Fin.val) := by
  have hevents : ((d.children r).find? fun child => (d.node child).tag == .event &&
      (d.node child).outcome? == some name && ((d.node child).isEnabled context).value) =
        (d.eventsFor r name).find? (d.takesPart context) := by
    rw [Document.eventsFor, List.find?_filter]
    simp only [Bool.decide_and, Bool.decide_eq_true]
    rfl
  rw [findEvent, children_eq, pure_bind, findM?_map (ask_eq _), pure_bind, hevents,
    Document.answer_findEvent]
  cases (d.eventsFor r name).find? (d.takesPart context) with
  | some event => rfl
  | none => exact fail_eq r _

@[simp]
theorem eventParameters_eq (name : String) (context : Context) (r : d.Ref) :
    eventParameters d.entries name context r =
      found (d.eventParameters r name context).answer := by
  rw [eventParameters, findEvent_eq, Document.answer_eventParameters]
  refine found_map_bind ?_
  intro event
  rw [node_eq, pure_bind, orFail_eq]

theorem enabledCard?_eq (context : Context) (child : d.Ref) :
    enabledCard? d.entries context child =
      pure ((d.enabledCard? context child).value.map Fin.val) := by
  rw [enabledCard?, node_eq, pure_bind, takesPart_eq, pure_bind, Document.value_enabledCard?,
    Document.tag]
  cases (d.node child).tag.isCard <;> cases d.takesPart context child <;> rfl

theorem firstCard_eq (context : Context) (r : d.Ref) :
    firstCard d.entries context r =
      found ((d.firstCard r context).answer.map (Option.map Fin.val)) := by
  rw [firstCard, children_eq, pure_bind, Document.firstCard, Document.visitChildren,
    Play.answer_findSomeM?]
  refine findSomeM?_map (fun child => ?_) _
  rw [node_eq, pure_bind, node_eq, pure_bind, fail_eq, enabledCard?_eq, Document.cardOfBranch?,
    Play.answer_ite, Play.answer_throw, Play.answer_liftM, Document.tag]
  cases (d.node child).tag.isBranch <;> rfl

theorem intoCard_eq (context : Context) (r : d.Ref) :
    intoCard d.entries context r =
      found ((Document.resolveBranch.intoCard d r context).answer.map Fin.val) := by
  rw [intoCard, firstCard_eq, Document.resolveBranch.intoCard, Play.answer_bind, Except.map_bind]
  refine found_map_bind ?_
  intro card
  cases card with
  | some card => rfl
  | none => exact fail_eq r _

/-- Branches are followed by number as they are in the document. -/
@[simp]
theorem resolveBranch_eq (context : Context) (r : d.Ref) :
    resolveBranch d.entries context r =
      found ((d.resolveBranch r context).answer.map Fin.val) := by
  rw [resolveBranch, children_eq, pure_bind, Document.resolveBranch]
  cases d.children r with
  | nil => exact intoCard_eq context r
  | cons only rest =>
      cases rest with
      | nil =>
          rw [List.map_singleton]
          dsimp only
          rw [node_eq, pure_bind, loadTrigger_eq, intoCard_eq, Play.answer_ite]
          change (if d.tag only = .trigger then _ else _) = _
          split
          · rw [Play.answer_bind, Play.answer_ofExcept, Except.map_bind]
            exact found_map_bind fun trigger => rfl
          · rfl
      | cons second rest => exact intoCard_eq context r

/-- A choice leads by number where it leads in the document. -/
theorem takeChoice_eq (index : Nat) (context : Context) (r : d.Ref) :
    takeChoice d.entries index context r =
      found ((d.takeChoice r index context).answer.map (Option.map Fin.val)) := by
  have hchoices : ((d.children r).filter fun child => (d.node child).tag == .choice &&
      ((d.node child).isEnabled context).value) = d.choicesIn r context := rfl
  rw [takeChoice, children_eq, pure_bind, findAtM?_map (ask_eq _), pure_bind, hchoices,
    Document.answer_takeChoice]
  cases (d.choicesIn r context)[index]? with
  | some choice =>
      dsimp only [Option.map_some]
      rw [resolveBranch_eq]
      cases (d.resolveBranch choice context).answer <;> rfl
  | none =>
      dsimp only [Option.map_none]
      rw [hasEndTrigger_eq, pure_bind, nextSibling_eq]
      cases d.endsWithin r context <;> rfl

/-- An event leads by number where it leads in the document. -/
theorem takeEvent_eq (name : String) (context : Context) (r : d.Ref) :
    takeEvent d.entries name context r =
      found ((d.takeEvent r name context).answer.map Fin.val) := by
  rw [takeEvent, findEvent_eq, Document.answer_takeEvent, Except.map_bind]
  exact found_map_bind fun event => resolveBranch_eq context event

end Gamebook.Checked
