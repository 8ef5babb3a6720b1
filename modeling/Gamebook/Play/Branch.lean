import Gamebook.Number.Reading
import Gamebook.Play.Basic
import Gamebook.Play.Navigation
import Gamebook.Play.Step

/-! # Branches

A choice or an event leads into the card that it holds. A trigger that it holds alone is followed at
once. Choices are counted among those that take part; events are found by the outcome they are for.
-/

namespace Gamebook

/-- An attribute that has more to it than blanks, without the blanks around it. -/
def Node.present? (node : Node) (name : String) : Option String :=
  ((node.attribute? name).map Text.trimmed).filter fun text => text != ""

/-- What an event gives to the player. -/
def Node.eventParameters (node : Node) : Except Cause EventParameters :=
  let xp := (node.present? "xp").map (· == "true")
  let loot := (node.present? "loot").map (· == "true")
  match node.present? "heal" with
  | none => .ok ⟨xp, loot, none⟩
  | some raw =>
    match (Number.readInteger? raw.toList).bind Number.int64? with
    | some heal => .ok ⟨xp, loot, some heal⟩
    | none => .error (.invalidHeal raw)

/-- The element of a list at a place among those that satisfy a condition. -/
def findAtM? {m : Type → Type} [Monad m] {α : Type} (p : α → m Bool) :
    Nat → List α → m (Option α)
  | _, [] => return none
  | place, a :: rest => do
    if ← p a then
      match place with
      | 0 => return some a
      | place + 1 => findAtM? p place rest
    else
      findAtM? p place rest

namespace Document

variable (d : Document)

/-- The first event of a node that is for the named outcome and takes part. -/
def findEvent (r : d.Ref) (name : String) (context : Context) : Play d.Ref := do
  let found ← (d.children r).findM? fun child =>
    if d.tag child = .event ∧ (d.node child).outcome? = some name then d.isEnabled child context
    else (pure false : Logged Bool)
  Play.ofOption (d.faultAt r (.missingEvent name)) found

/-- What the event for the named outcome gives to the player. -/
def eventParameters (r : d.Ref) (name : String) (context : Context) : Play EventParameters := do
  let event ← d.findEvent r name context
  match (d.node event).eventParameters with
  | .ok parameters => return parameters
  | .error cause => throw (d.faultAt event cause)

/-- The visitor that finds a card that takes part, and fails at a branch within the branch. -/
def cardOfBranch? (branch : d.Ref) (context : Context) (child : d.Ref) : Play (Option d.Ref) :=
  if (d.tag child).isBranch then
    throw (d.faultAt child (.branchInBranch (d.tag branch)))
  else d.enabledCard? context child

/-- The first card among the children of a branch that takes part, unless a branch comes first. -/
def firstCard (branch : d.Ref) (context : Context) : Play (Option d.Ref) :=
  d.visitChildren branch (d.cardOfBranch? branch context)

/-- The node that a choice or an event leads to. -/
def resolveBranch (r : d.Ref) (context : Context) : Play d.Ref := do
  match d.children r with
  | [only] =>
    if d.tag only = .trigger then
      return (← Play.ofExcept (d.loadTrigger only)).target
    else intoCard
  | _ => intoCard
where
  /-- The first card of the branch. -/
  intoCard : Play d.Ref := do
    let card ← d.firstCard r context
    Play.ofOption (d.faultAt r .branchWithoutCard) card

/-- The choice of a node with a number among those that take part. -/
def findChoice (r : d.Ref) (index : Nat) (context : Context) : Logged (Option d.Ref) :=
  findAtM? (fun child =>
    if d.tag child = .choice then d.isEnabled child context else (pure false : Logged Bool))
    index (d.children r)

/-- Where a choice leads. Without such a choice play goes on beside the node, unless the node holds
a trigger that ends the quest. -/
def takeChoice (r : d.Ref) (index : Nat) (context : Context) : Play (Option d.Ref) := do
  match ← d.findChoice r index context with
  | some choice =>
    Play.write (.choiceTaken index choice.val)
    return some (← d.resolveBranch choice context)
  | none =>
    if ← d.hasEndTrigger r context then
      Play.write (.choiceEnds index r.val)
      return none
    else
      let next ← d.nextSibling r context
      return next

/-- Where the event for the named outcome leads. -/
def takeEvent (r : d.Ref) (name : String) (context : Context) : Play d.Ref := do
  let event ← d.findEvent r name context
  Play.write (.eventTaken name event.val)
  d.resolveBranch event context

end Document

end Gamebook
