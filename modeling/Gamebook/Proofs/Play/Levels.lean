import Gamebook.Proofs.Document.Order
import Gamebook.Proofs.Play.Ways

/-! # Levels of play

Play that has run out within a node goes on beside the node, or else beside a node around it that is
no branch: at one of its levels. `value_fallThrough_eq` says that it goes on at the first of them,
from the inside out, that has something left.
-/

namespace Gamebook.Document

variable (d : Document)

/-- The nodes around a node, from the inside out. -/
def around (r : d.Ref) : List d.Ref :=
  match _h : d.parent? r with
  | none => []
  | some parent => parent :: around parent
termination_by r.val
decreasing_by exact d.parent?_lt _h

/-- A node and the nodes around it, from the inside out, without choices and events around it. -/
def levels (r : d.Ref) : List d.Ref :=
  r :: (d.around r).filter fun outer => !(d.tag outer).isBranch

/-- The first node behind a node that takes part, or else behind one of the levels around it. -/
def onward? (r : d.Ref) (context : Context) : Option d.Ref :=
  (d.levels r).findSome? fun level => (d.followers level).find? (d.takesPart context)

variable {d}

theorem around_eq {r : d.Ref} :
    d.around r = match d.parent? r with
      | none => []
      | some parent => parent :: d.around parent := by
  rw [around]
  split
  next h => rw [h]
  next parent h => rw [h]

theorem enclosing?_eq (r : d.Ref) :
    d.enclosing? r = match d.parent? r with
      | none => none
      | some parent => if (d.tag parent).isBranch then d.enclosing? parent else some parent := by
  rw [enclosing?]
  split
  next h => rw [h]
  next parent h => rw [h]

theorem standsIn_of_mem_around {r outer : d.Ref} (h : outer ∈ d.around r) : d.StandsIn r outer := by
  fun_induction around d r with
  | case1 => cases h
  | case2 r parent hparent ih =>
      have hstep : d.StandsIn r parent := .single (outerNumber?_eq_some_iff.2 hparent)
      rcases List.mem_cons.1 h with rfl | hmem
      · exact hstep
      · exact hstep.trans (ih hmem)

theorem standsIn_of_mem_levels {r level : d.Ref} (h : level ∈ d.levels r) :
    d.StandsIn r level := by
  rcases List.mem_cons.1 h with rfl | hmem
  · exact .refl
  · exact standsIn_of_mem_around (List.mem_filter.1 hmem).1

theorem levels_eq (r : d.Ref) :
    d.levels r = r :: match d.enclosing? r with
      | some outer => d.levels outer
      | none => [] := by
  unfold levels
  congr 1
  fun_induction enclosing? d r with
  | case1 r hparent =>
      rw [around_eq, hparent]
      rfl
  | case2 r parent hparent hbranch ih =>
      rw [around_eq, hparent]
      simpa [hbranch] using ih
  | case3 r parent hparent hbranch =>
      rw [around_eq, hparent]
      simp [hbranch]

/-- Falling through goes to the first node that is left at one of the levels. -/
theorem value_fallThrough_eq (r : d.Ref) (context : Context) :
    (d.fallThrough r context).value = d.onward? r context := by
  rw [value_fallThrough, onward?, levels_eq, List.findSome?_cons]
  cases (d.followers r).find? (d.takesPart context) with
  | some next => rfl
  | none =>
      cases houter : d.enclosing? r with
      | none => rfl
      | some outer => exact value_fallThrough_eq outer context
termination_by r.val
decreasing_by exact d.enclosing?_lt houter

theorem exists_level_of_onward? {r next : d.Ref} {context : Context}
    (h : d.onward? r context = some next) : ∃ level ∈ d.levels r, next ∈ d.followers level := by
  obtain ⟨level, hlevel, hfind⟩ := List.exists_of_findSome?_eq_some h
  exact ⟨level, hlevel, List.mem_of_find?_eq_some hfind⟩

theorem onward?_eq_none_iff {r : d.Ref} {context : Context} :
    d.onward? r context = none ↔
      ∀ level ∈ d.levels r, ∀ follower ∈ d.followers level,
        d.takesPart context follower = false := by
  simp [onward?]

end Gamebook.Document
