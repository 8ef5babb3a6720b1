import Mathlib.Data.List.FinRange
import Mathlib.Data.List.Perm.Subperm
import Mathlib.Data.List.Sort
import Gamebook.Proofs.Document.Order

/-! # What a walk lists

A walk from a node lists the node and everything that stands in it (`mem_descendants_iff`). In a
document whose nodes are numbered in the order of reading it does so in increasing order, so the
walk from the root is the list of all nodes in the order of their numbers (`descendants_root`).
-/

namespace Gamebook.Document

open Relation

variable {d : Document}

theorem descendants_eq (r : d.Ref) :
    d.descendants r = r :: (d.children r).flatMap d.descendants := by
  rw [descendants, List.flatMap_subtype fun _ _ => rfl, List.unattach_attach]

/-- What a node inherits from its children holds of every node. -/
@[elab_as_elim]
theorem induction_children {P : d.Ref → Prop} (step : ∀ r, (∀ c ∈ d.children r, P c) → P r)
    (r : d.Ref) : P r :=
  step r fun c _hc => induction_children step c
termination_by d.entries.size - r.val
decreasing_by
  have hlt : r.val < c.val := d.lt_of_mem_children _hc
  omega

/-- What stands in a node is the node itself or stands in one of its children. -/
theorem standsIn_iff {r s : d.Ref} :
    d.StandsIn s r ↔ s = r ∨ ∃ c ∈ d.children r, d.StandsIn s c := by
  constructor
  · intro h
    rcases ReflTransGen.cases_tail h with heq | ⟨c, hrest, hstep⟩
    · exact Or.inl (Fin.ext heq.symm)
    · right
      have hlt : c < d.entries.size := Nat.lt_of_le_of_lt (le_of_standsIn hrest) s.isLt
      have hparent : d.parent? ⟨c, hlt⟩ = some r := outerNumber?_eq_some_iff.1 hstep
      exact ⟨⟨c, hlt⟩, d.mem_children_iff.2 hparent, hrest⟩
  · rintro (rfl | ⟨c, hc, hrest⟩)
    · exact .refl
    · exact hrest.trans (standsIn_of_mem_children hc)

/-- A walk lists what stands in its node. -/
theorem mem_descendants_iff {r s : d.Ref} : s ∈ d.descendants r ↔ d.StandsIn s r := by
  induction r using induction_children with
  | step r ih =>
      rw [descendants_eq, standsIn_iff, List.mem_cons, List.mem_flatMap]
      apply or_congr_right
      apply exists_congr
      intro c
      exact and_congr_right (ih c)

/-- Working off a node puts its children in front of the other nodes that wait. -/
theorem flatMap_descendants_cons (r : d.Ref) (waiting : List d.Ref) :
    (r :: waiting).flatMap d.descendants =
      r :: (d.children r ++ waiting).flatMap d.descendants := by
  rw [List.flatMap_cons, descendants_eq, List.flatMap_append, List.cons_append]

/-- A relation holds along a walk if it holds from the first node to those that stand in it, along
the walks from the children, and from what stands in a child to what stands in a later one. -/
theorem pairwise_descendants_iff {R : d.Ref → d.Ref → Prop} {r : d.Ref} :
    (d.descendants r).Pairwise R ↔
      (∀ s : d.Ref, ∀ c ∈ d.children r, d.StandsIn s c → R r s) ∧
      (∀ c ∈ d.children r, (d.descendants c).Pairwise R) ∧
      (d.children r).Pairwise fun a b : d.Ref =>
        ∀ s : d.Ref, d.StandsIn s a → ∀ t : d.Ref, d.StandsIn t b → R s t := by
  simp only [descendants_eq r, List.pairwise_cons, List.pairwise_flatMap, List.mem_flatMap,
    mem_descendants_iff, forall_exists_index, and_imp]

/-- A walk through a document in the order of reading never goes back. -/
theorem pairwise_lt_descendants (hordered : d.InReadingOrder) (r : d.Ref) :
    (d.descendants r).Pairwise (· < ·) := by
  induction r using induction_children with
  | step r ih =>
      refine pairwise_descendants_iff.2 ⟨?_, ih, ?_⟩
      · intro s c hc hs
        exact Nat.lt_of_lt_of_le (d.lt_of_mem_children hc) (le_of_standsIn hs)
      · -- What stands in a child comes before the children behind it and what stands in them.
        refine (pairwise_lt_children r).imp_of_mem ?_
        intro c next hc hnext hlt s hs t ht
        have hfollows : next ∈ d.followers c :=
          mem_followers_iff.2 ⟨r, d.mem_children_iff.1 hc, d.mem_children_iff.1 hnext, hlt⟩
        exact Nat.lt_of_lt_of_le (lt_of_standsIn hordered hs hfollows) (le_of_standsIn ht)

/-- A node that stands in two others has one of these in the other. -/
theorem standsIn_or_standsIn {i outer other : Nat} (h : d.StandsIn i outer)
    (hother : d.StandsIn i other) : d.StandsIn outer other ∨ d.StandsIn other outer := by
  apply ReflTransGen.total_of_right_unique ?_ h hother
  intro i a b ha hb
  exact Option.some.inj (ha.symm.trans hb)

/-- A child stands in none of the other children. -/
theorem eq_of_standsIn_of_mem_children {r c next : d.Ref} (hc : c ∈ d.children r)
    (hnext : next ∈ d.children r) (h : d.StandsIn c next) : c = next := by
  rcases ReflTransGen.cases_head h with heq | ⟨parent, hparent, hrest⟩
  · exact Fin.ext heq
  · rw [outerNumber?_eq_some_iff.2 (d.mem_children_iff.1 hc), Option.some.injEq] at hparent
    subst hparent
    exact absurd (le_of_standsIn hrest) (Nat.not_le_of_lt (d.lt_of_mem_children hnext))

/-- A walk lists no node twice. -/
theorem nodup_descendants (r : d.Ref) : (d.descendants r).Nodup := by
  induction r using induction_children with
  | step r ih =>
      refine pairwise_descendants_iff.2 ⟨?_, ih, ?_⟩
      · intro s c hc hs
        exact ne_of_lt (Nat.lt_of_lt_of_le (d.lt_of_mem_children hc) (le_of_standsIn hs))
      · refine (pairwise_lt_children r).imp_of_mem ?_
        rintro c next hc hnext hlt s hs _ ht rfl
        rcases standsIn_or_standsIn hs ht with h | h
        · exact Nat.ne_of_lt hlt (congrArg Fin.val (eq_of_standsIn_of_mem_children hc hnext h))
        · exact Nat.ne_of_gt hlt (congrArg Fin.val (eq_of_standsIn_of_mem_children hnext hc h))

/-- A walk lists no more nodes than there are. -/
theorem length_descendants_le (r : d.Ref) : (d.descendants r).length ≤ d.size := by
  have hsub := List.subperm_of_subset (nodup_descendants r) fun s _ => List.mem_finRange s
  simpa [size] using hsub.length_le

/-- The root is the only node that stands in no other. -/
theorem parent?_eq_none_iff {r : d.Ref} : d.parent? r = none ↔ r = d.root := by
  constructor
  · intro h
    refine Fin.ext (d.linked.root_of_parent r ?_)
    cases hparent : d.entries[r].parent with
    | none => rfl
    | some p =>
        have hp : d.parent? r = some ⟨p, d.parent_lt_size r p hparent⟩ :=
          d.parent?_eq_some_iff.2 hparent
        rw [h] at hp
        cases hp
  · rintro rfl
    cases hparent : d.parent? d.root with
    | none => rfl
    | some p => exact absurd (d.parent?_lt hparent) (Nat.not_lt_zero p.val)

/-- Every node stands in the root. -/
theorem standsIn_root (r : d.Ref) : d.StandsIn r d.root := by
  cases hparent : d.parent? r with
  | none =>
      rw [parent?_eq_none_iff.1 hparent]
      exact .refl
  | some p => exact (standsIn_root p).head (outerNumber?_eq_some_iff.2 hparent)
termination_by r.val
decreasing_by exact d.parent?_lt hparent

/-- The walk from the root lists every node. -/
theorem mem_descendants_root (r : d.Ref) : r ∈ d.descendants d.root :=
  mem_descendants_iff.2 (standsIn_root r)

/-- The way up from any node leads to the root. -/
theorem top_eq_root (r : d.Ref) : d.top r = d.root := by
  fun_induction top d r with
  | case1 r parent hparent ih => exact ih
  | case2 r hparent => exact parent?_eq_none_iff.1 hparent

/-- In a document in the order of reading the walk from the root is all nodes in the order of their
numbers. -/
theorem descendants_root (hordered : d.InReadingOrder) : d.descendants d.root = d.refs := by
  apply (pairwise_lt_descendants hordered d.root).eq_of_mem_iff (List.pairwise_lt_finRange _)
  intro r
  exact iff_of_true (mem_descendants_root r) (List.mem_finRange r)

end Gamebook.Document
