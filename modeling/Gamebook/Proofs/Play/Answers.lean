import Gamebook.Play.Branch
import Gamebook.Play.Card

/-! # Answers of walks

Play walks through the children of a node and asks of each whether it takes part. The journal that
is written on the way never counts: each walk has the answer of the same walk with the questions
answered beforehand.
-/

namespace Gamebook

namespace Logged

variable {α β : Type}

@[simp]
theorem value_ite (c : Prop) [Decidable c] (x y : Logged α) :
    (if c then x else y).value = if c then x.value else y.value := by
  split <;> rfl

theorem value_findM? (p : α → Logged Bool) (xs : List α) :
    (xs.findM? p).value = xs.find? fun a => (p a).value := by
  induction xs with
  | nil => rfl
  | cons a rest ih =>
      rw [List.findM?, value_bind, List.find?_cons]
      cases (p a).value with
      | true => rfl
      | false => exact ih

theorem value_findSomeM? (visit : α → Logged (Option β)) (xs : List α) :
    (xs.findSomeM? visit).value = xs.findSome? fun a => (visit a).value := by
  induction xs with
  | nil => rfl
  | cons a rest ih =>
      rw [List.findSomeM?, value_bind, List.findSome?_cons]
      cases (visit a).value with
      | some b => rfl
      | none => exact ih

theorem value_anyM (p : α → Logged Bool) (xs : List α) :
    (xs.anyM p).value = xs.any fun a => (p a).value := by
  induction xs with
  | nil => rfl
  | cons a rest ih =>
      rw [List.anyM, value_bind, List.any_cons]
      cases (p a).value with
      | true => rfl
      | false => exact ih

theorem value_foldlM (f : β → α → Logged β) (b : β) (xs : List α) :
    (xs.foldlM f b).value = xs.foldl (fun b a => (f b a).value) b := by
  induction xs generalizing b with
  | nil => rfl
  | cons a rest ih =>
      rw [List.foldlM_cons, value_bind, List.foldl_cons]
      exact ih (f b a).value

/-- Counting among the elements that satisfy a condition is looking up in the list of these. -/
theorem value_findAtM? (p : α → Logged Bool) (place : Nat) (xs : List α) :
    (findAtM? p place xs).value = (xs.filter fun a => (p a).value)[place]? := by
  induction xs generalizing place with
  | nil => cases place <;> rfl
  | cons a rest ih =>
      unfold findAtM?
      rw [value_bind, value_ite, List.filter_cons]
      cases (p a).value with
      | true =>
          cases place with
          | zero => rfl
          | succ place => exact ih place
      | false => exact ih place

end Logged

namespace Play

variable {α β : Type}

@[simp]
theorem answer_liftM (x : Logged α) : answer (liftM x : Play α) = .ok x.value := rfl

@[simp]
theorem answer_map (f : α → β) (x : Play α) : answer (f <$> x) = (answer x).map f := by
  rw [map_eq_pure_bind, answer_bind]
  cases answer x <;> rfl

@[simp]
theorem answer_ite (c : Prop) [Decidable c] (x y : Play α) :
    answer (if c then x else y) = if c then answer x else answer y := by
  split <;> rfl

theorem answer_foldlM (f : β → α → Play β) (b : β) (xs : List α) :
    answer (xs.foldlM f b) = xs.foldlM (fun b a => answer (f b a)) b := by
  induction xs generalizing b with
  | nil => rfl
  | cons a rest ih =>
      rw [List.foldlM_cons, List.foldlM_cons, answer_bind]
      cases answer (f b a) with
      | error fault => rfl
      | ok next => exact ih next

/-- A search whose questions cannot fail cannot fail either. -/
theorem answer_findM? {p : α → Play Bool} {q : α → Bool} (h : ∀ a, answer (p a) = .ok (q a))
    (xs : List α) : answer (xs.findM? p) = .ok (xs.find? q) := by
  induction xs with
  | nil => rfl
  | cons a rest ih =>
      rw [List.findM?, answer_bind, h, List.find?_cons]
      cases q a with
      | true => rfl
      | false => exact ih

theorem answer_findSomeM? (visit : α → Play (Option β)) (xs : List α) :
    answer (xs.findSomeM? visit) = xs.findSomeM? fun a => answer (visit a) := by
  induction xs with
  | nil => rfl
  | cons a rest ih =>
      rw [List.findSomeM?, List.findSomeM?, answer_bind]
      cases answer (visit a) with
      | error fault => rfl
      | ok found =>
          cases found with
          | some b => rfl
          | none => exact ih

end Play

end Gamebook
