import Gamebook.Document.Walk
import Gamebook.Play.Visibility

/-! # Navigation

Where play goes on when a card has been read: at the next node beside it that takes part, or else
beside the card that it is a branch of, and so on outward. Within a node its children are visited in
order until one of them is found.
-/

namespace Gamebook.Document

variable (d : Document)

/-- What a visit of the children of a node comes to. The visitor is given one child after the other
until it finds something or fails. -/
def visitChildren {m : Type → Type} [Monad m] {α : Type} (r : d.Ref)
    (visit : d.Ref → m (Option α)) : m (Option α) :=
  (d.children r).findSomeM? visit

/-- The visitor that finds a card that takes part. -/
def enabledCard? (context : Context) (child : d.Ref) : Logged (Option d.Ref) := do
  if (d.tag child).isCard then
    if ← d.isEnabled child context then return some child
    else return none
  else return none

/-- The nodes beside a node that come after it. -/
def followers (r : d.Ref) : List d.Ref :=
  match d.parent? r with
  | none => []
  | some parent => ((d.children parent).dropWhile (· != r)).drop 1

/-- The first node after a node beside it that takes part. -/
def nextSibling (r : d.Ref) (context : Context) : Logged (Option d.Ref) :=
  (d.followers r).findM? fun sibling => d.isEnabled sibling context

/-- The innermost node around a node that is neither a choice nor an event. -/
def enclosing? (r : d.Ref) : Option d.Ref :=
  match _h : d.parent? r with
  | none => none
  | some parent => if (d.tag parent).isBranch then enclosing? parent else some parent
termination_by r.val
decreasing_by exact d.parent?_lt _h

theorem enclosing?_lt {r outer : d.Ref} (h : d.enclosing? r = some outer) : outer < r := by
  fun_induction enclosing? d r with
  | case1 => cases h
  | case2 r parent hparent _ ih => exact Nat.lt_trans (ih h) (d.parent?_lt hparent)
  | case3 r parent hparent _ =>
    cases h
    exact d.parent?_lt hparent

/-- Where play goes on once there is nothing left within a node. -/
def fallThrough (r : d.Ref) (context : Context) : Logged (Option d.Ref) := do
  match ← d.nextSibling r context with
  | some next => return some next
  | none =>
    match _h : d.enclosing? r with
    | some outer => fallThrough outer context
    | none => return none
termination_by r.val
decreasing_by exact d.enclosing?_lt _h

/-- The first child of a node that is written as an element with the given name. -/
def childNamed? (r : d.Ref) (name : String) : Option d.Ref :=
  Id.run <| d.visitChildren r fun child =>
    pure (if (d.tag child).element = name then some child else none)

/-- The first child of a node with the given name, unless a child with the name `stop` is met first,
which is answered as a failure. -/
def childNamedBefore? (r : d.Ref) (name stop : String) : Except d.Ref (Option d.Ref) :=
  d.visitChildren r fun child =>
    if (d.tag child).element = stop then .error child
    else .ok (if (d.tag child).element = name then some child else none)

end Gamebook.Document
