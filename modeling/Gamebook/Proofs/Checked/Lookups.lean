import Gamebook.Proofs.Document.Walks
import Gamebook.Proofs.Play.Levels

/-! # Looking nodes up by number

The references of a document cannot miss. Here nodes are known by bare numbers instead, as they are
stored, and every look-up is checked: there is no result if no entry has the number, and none if a
loop takes more turns than there are entries. On the numbers of a document nothing is ever missed,
and what is found is what the references lead to: `loadTrigger_eq` says so for triggers, which climb
to the root and walk through the document.
-/

namespace Gamebook

/-- Steps by number. Apart from the faults of play they may have no result at all. -/
abbrev Checked := ExceptT Fault Option

namespace Checked

section

variable {α β γ : Type}

/-- The step without a result. -/
def missing : Checked α := ExceptT.mk none

/-- The step that comes to an answer of play. -/
def found (answer : Except Fault α) : Checked α := ExceptT.mk (some answer)

/-- What is looked up must be there. -/
def present : Option α → Checked α
  | some a => pure a
  | none => missing

/-- Steps that come to answers one after the other come to the answer of both. -/
theorem found_bind {answer : Except Fault α} {f : α → Checked β} {rest : α → Except Fault β}
    (h : ∀ a, f a = found (rest a)) : found answer >>= f = found (answer.bind rest) := by
  cases answer with
  | error fault => rfl
  | ok a => exact h a

/-- The same where the first answer is known by number. -/
theorem found_map_bind {answer : Except Fault γ} {number : γ → α} {f : α → Checked β}
    {rest : γ → Except Fault β} (h : ∀ c, f (number c) = found (rest c)) :
    found (answer.map number) >>= f = found (answer.bind rest) := by
  cases answer with
  | error fault => rfl
  | ok c => exact h c

theorem findM?_map {p : Nat → Checked Bool} {q : α → Bool} {number : α → Nat}
    (h : ∀ a, p (number a) = pure (q a)) (xs : List α) :
    (xs.map number).findM? p = pure ((xs.find? q).map number) := by
  induction xs with
  | nil => rfl
  | cons a rest ih =>
      rw [List.map_cons, List.findM?, h, pure_bind, List.find?_cons]
      cases q a with
      | true => rfl
      | false => exact ih

theorem findSomeM?_map {visit : Nat → Checked (Option Nat)} {visitor : α → Except Fault (Option α)}
    {number : α → Nat}
    (h : ∀ a, visit (number a) = found ((visitor a).map (Option.map number))) (xs : List α) :
    (xs.map number).findSomeM? visit =
      found ((xs.findSomeM? visitor).map (Option.map number)) := by
  induction xs with
  | nil => rfl
  | cons a rest ih =>
      rw [List.map_cons, List.findSomeM?, List.findSomeM?, h, Except.bind_eq_bind, Except.map_bind]
      refine found_map_bind fun card => ?_
      cases card with
      | some card => rfl
      | none => exact ih

theorem anyM_map {p : Nat → Checked Bool} {q : α → Bool} {number : α → Nat}
    (h : ∀ a, p (number a) = pure (q a)) (xs : List α) :
    (xs.map number).anyM p = pure (xs.any q) := by
  induction xs with
  | nil => rfl
  | cons a rest ih =>
      rw [List.map_cons, List.anyM, h, pure_bind, List.any_cons]
      cases q a with
      | true => rfl
      | false => exact ih

theorem foldlM_map {f : β → γ → Checked β} {g : β → α → Except Fault β} {number : α → γ}
    (h : ∀ b a, f b (number a) = found (g b a)) (b : β) (xs : List α) :
    (xs.map number).foldlM f b = found (xs.foldlM g b) := by
  induction xs generalizing b with
  | nil => rfl
  | cons a rest ih =>
      rw [List.map_cons, List.foldlM_cons, List.foldlM_cons, h]
      cases g b a with
      | error fault => rfl
      | ok next => exact ih next

end

/-! ## The entries -/

section

variable (entries : Array Entry)

/-- The entry with a number. -/
def entry (i : Nat) : Checked Entry :=
  present entries[i]?

/-- The node with a number. -/
def node (i : Nat) : Checked Node := do
  return (← entry entries i).node

/-- The number of the node that a node stands directly in. -/
def parent? (i : Nat) : Checked (Option Nat) := do
  return (← entry entries i).parent

/-- The numbers of the nodes that stand directly in a node. -/
def children (i : Nat) : Checked (List Nat) := do
  return (← entry entries i).children

/-- Whether the node with a number passes a test. -/
def ask (test : Node → Bool) (i : Nat) : Checked Bool := do
  return test (← node entries i)

/-- Whether the node with a number takes part. -/
def takesPart (context : Context) : Nat → Checked Bool :=
  ask entries fun node => (node.isEnabled context).value

/-- Fails with a fault of the node with a number. -/
def fail {α : Type} (i : Nat) (cause : Cause) : Checked α := do
  throw ⟨cause, (← node entries i).span⟩

/-- Goes on with something that may be a fault of the node with a number. -/
def orFail {α : Type} (i : Nat) : Except Cause α → Checked α
  | .ok a => pure a
  | .error cause => fail entries i cause

/-! ## Loops -/

/-- The first of a node and the nodes around it that is neither a choice nor an event. -/
def outOfBranches : Nat → Nat → Checked (Option Nat)
  | 0, _ => missing
  | turns + 1, i => do
    if (← node entries i).tag.isBranch then
      match ← parent? entries i with
      | some outer => outOfBranches turns outer
      | none => return none
    else return some i

/-- The first node behind a node that takes part. -/
def nextSibling (context : Context) (i : Nat) : Checked (Option Nat) := do
  match ← parent? entries i with
  | none => return none
  | some parent =>
    let siblings ← children entries parent
    ((siblings.dropWhile (· != i)).drop 1).findM? (takesPart entries context)

/-- The node at which play goes on once there is nothing left within a node. -/
def fallThrough (context : Context) : Nat → Nat → Checked (Option Nat)
  | 0, _ => missing
  | turns + 1, i => do
    match ← nextSibling entries context i with
    | some next => return some next
    | none =>
      match ← parent? entries i with
      | none => return none
      | some parent =>
        match ← outOfBranches entries entries.size parent with
        | none => return none
        | some outer => fallThrough context turns outer

/-- The node that is reached by going up for as long as there is a parent. -/
def top : Nat → Nat → Checked Nat
  | 0, _ => missing
  | turns + 1, i => do
    match ← parent? entries i with
    | some parent => top turns parent
    | none => return i

/-- The nodes that are met by working off a stack on which the children of each node are put. -/
def walk : Nat → List Nat → Checked (List Nat)
  | _, [] => return []
  | 0, _ :: _ => missing
  | turns + 1, i :: stack => do
    let below ← children entries i
    let rest ← walk turns (below ++ stack)
    return i :: rest

/-- The first node within a node that has the given id. -/
def find? (within : Nat) (id : String) : Checked (Option Nat) := do
  let numbers ← walk entries entries.size [within]
  numbers.findM? (ask entries fun node => node.id? == some id)

/-! ## Triggers -/

/-- What a node does as a trigger, with the number of the node at which play goes on. -/
def loadTrigger (i : Nat) : Checked (Nat × TriggerKind) := do
  let text := Text.trimmed (← node entries i).text
  if text = "end" then return (i, .finish)
  else
    match gotoTarget? text.toList with
    | none => fail entries i (.invalidTrigger text)
    | some id =>
      let root ← top entries entries.size i
      match ← find? entries root (String.ofList id) with
      | some target => return (target, .goto)
      | none => fail entries i (.missingTarget (String.ofList id))

/-- Whether a node holds a trigger that ends the quest and takes part. -/
def hasEndTrigger (context : Context) (i : Nat) : Checked Bool := do
  (← children entries i).anyM
    (ask entries fun node => node.isEndTrigger && (node.isEnabled context).value)

end

/-! ## Nothing is missed -/

variable {d : Document}

/-- The entry of a node leads where its references lead. -/
theorem entry_eq (r : d.Ref) :
    entry d.entries r =
      pure ⟨d.node r, (d.parent? r).map Fin.val, (d.children r).map Fin.val⟩ := by
  unfold entry
  rw [Array.getElem?_eq_getElem r.isLt, Document.parent?, Option.map_pmap, Option.pmap_eq_map,
    Option.map_id', Document.children, List.map_pmap, List.pmap_eq_map, List.map_id']
  rfl

@[simp]
theorem node_eq (r : d.Ref) : node d.entries r = pure (d.node r) := by
  rw [node, entry_eq, pure_bind]

@[simp]
theorem parent?_eq (r : d.Ref) : parent? d.entries r = pure ((d.parent? r).map Fin.val) := by
  rw [parent?, entry_eq, pure_bind]

@[simp]
theorem children_eq (r : d.Ref) : children d.entries r = pure ((d.children r).map Fin.val) := by
  rw [children, entry_eq, pure_bind]

@[simp]
theorem ask_eq (test : Node → Bool) (r : d.Ref) :
    ask d.entries test r = pure (test (d.node r)) := by
  rw [ask, node_eq, pure_bind]

@[simp]
theorem takesPart_eq (context : Context) (r : d.Ref) :
    takesPart d.entries context r = pure (d.takesPart context r) :=
  ask_eq _ r

@[simp]
theorem fail_eq {α : Type} (r : d.Ref) (cause : Cause) :
    (fail d.entries r cause : Checked α) = found (.error (d.faultAt r cause)) := by
  rw [fail, node_eq, pure_bind]
  rfl

@[simp]
theorem orFail_eq {α : Type} (r : d.Ref) (x : Except Cause α) :
    orFail d.entries r x = found (x.mapError (d.faultAt r)) := by
  cases x with
  | error cause => exact fail_eq r cause
  | ok a => rfl

/-- The way out of branches ends, since every turn leads to a smaller number. -/
theorem outOfBranches_eq {turns : Nat} {r : d.Ref} (h : r.val < turns) :
    outOfBranches d.entries turns r =
      pure ((if (d.tag r).isBranch then d.enclosing? r else some r).map Fin.val) := by
  -- As in the other loops upward, the turns that are left stay more than the number of the node.
  induction turns generalizing r with
  | zero => exact absurd h (Nat.not_lt_zero _)
  | succ turns ih =>
      rw [outOfBranches, node_eq, pure_bind]
      change (if (d.tag r).isBranch = true then _ else _) = _
      split
      · rw [parent?_eq, pure_bind, Document.enclosing?]
        cases hparent : d.parent? r with
        | none => rfl
        | some parent =>
            have hlt : parent.val < r.val := d.parent?_lt hparent
            exact ih (by omega)
      · rfl

@[simp]
theorem nextSibling_eq (context : Context) (r : d.Ref) :
    nextSibling d.entries context r =
      pure (((d.followers r).find? (d.takesPart context)).map Fin.val) := by
  unfold nextSibling Document.followers
  rw [parent?_eq, pure_bind]
  cases d.parent? r with
  | none => rfl
  | some parent =>
      have hother : (fun i => i != r.val) ∘ Fin.val = fun c : d.Ref => c != r := by
        funext c
        simp [bne, Fin.ext_iff]
      dsimp only [Option.map_some]
      rw [children_eq, pure_bind, List.dropWhile_map, hother, ← List.map_drop]
      exact findM?_map (takesPart_eq context) _

/-- Falling through ends, since every turn leads to a smaller number. -/
theorem fallThrough_eq {context : Context} {turns : Nat} {r : d.Ref} (h : r.val < turns) :
    fallThrough d.entries context turns r =
      pure ((d.fallThrough r context).value.map Fin.val) := by
  induction turns generalizing r with
  | zero => exact absurd h (Nat.not_lt_zero _)
  | succ turns ih =>
      rw [fallThrough, nextSibling_eq, pure_bind, Document.value_fallThrough]
      cases (d.followers r).find? (d.takesPart context) with
      | some next => rfl
      | none =>
          dsimp only [Option.map_none]
          rw [parent?_eq, pure_bind]
          have houter := Document.enclosing?_eq r
          cases hparent : d.parent? r with
          | none =>
              rw [hparent] at houter
              rw [houter]
              rfl
          | some parent =>
              rw [hparent] at houter
              dsimp only [Option.map_some] at houter ⊢
              rw [outOfBranches_eq parent.isLt, pure_bind, ← houter]
              cases hfound : d.enclosing? r with
              | none => rfl
              | some outer =>
                  have hlt : outer.val < r.val := d.enclosing?_lt hfound
                  exact ih (by omega)

/-- The way up ends at the root, since every turn leads to a smaller number. -/
theorem top_eq {turns : Nat} {r : d.Ref} (h : r.val < turns) :
    top d.entries turns r = pure d.root.val := by
  induction turns generalizing r with
  | zero => exact absurd h (Nat.not_lt_zero _)
  | succ turns ih =>
      rw [top, parent?_eq, pure_bind]
      cases hparent : d.parent? r with
      | none =>
          rw [Document.parent?_eq_none_iff.1 hparent]
          rfl
      | some parent =>
          have hlt : parent.val < r.val := d.parent?_lt hparent
          exact ih (by omega)

/-- Working off a stack lists what stands in its nodes, one after the other. -/
theorem walk_eq {turns : Nat} {stack : List d.Ref}
    (h : (stack.flatMap d.descendants).length ≤ turns) :
    walk d.entries turns (stack.map Fin.val) =
      pure ((stack.flatMap d.descendants).map Fin.val) := by
  induction turns generalizing stack with
  | zero =>
      cases stack with
      | nil => rfl
      | cons r stack =>
          rw [Document.flatMap_descendants_cons] at h
          cases h
  | succ turns ih =>
      cases stack with
      | nil => rfl
      | cons r stack =>
          rw [Document.flatMap_descendants_cons] at h ⊢
          rw [List.map_cons, walk, children_eq, pure_bind, ← List.map_append,
            ih (Nat.le_of_succ_le_succ h), pure_bind, List.map_cons]

@[simp]
theorem find?_eq (within : d.Ref) (id : String) :
    find? d.entries within id = pure ((d.find? within id).map Fin.val) := by
  have hwalk : walk d.entries d.entries.size [within.val] =
      pure ((d.descendants within).map Fin.val) := by
    have hall : [within].flatMap d.descendants = d.descendants within :=
      List.flatMap_singleton _ _
    rw [← hall]
    exact walk_eq (hall ▸ Document.length_descendants_le within)
  rw [find?, hwalk, pure_bind, Document.find?]
  exact findM?_map (ask_eq _) _

/-- What a trigger does by number is what it does in the document. -/
@[simp]
theorem loadTrigger_eq (r : d.Ref) :
    loadTrigger d.entries r =
      found ((d.loadTrigger r).map fun trigger => (trigger.target.val, trigger.kind)) := by
  unfold loadTrigger Document.loadTrigger
  rw [node_eq, pure_bind]
  dsimp only
  split
  · rfl
  · cases gotoTarget? (Text.trimmed (d.node r).text).toList with
    | none => exact fail_eq r _
    | some id =>
        dsimp only
        rw [top_eq r.isLt, pure_bind, find?_eq, pure_bind, Document.top_eq_root]
        cases d.find? d.root (String.ofList id) with
        | some target => rfl
        | none => exact fail_eq r _

@[simp]
theorem hasEndTrigger_eq (context : Context) (r : d.Ref) :
    hasEndTrigger d.entries context r = pure (d.endsWithin r context) := by
  rw [hasEndTrigger, children_eq, pure_bind]
  exact anyM_map (ask_eq _) _

end Checked

end Gamebook
