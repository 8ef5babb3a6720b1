import Mathlib.Logic.Relation
import Gamebook.Document.Reader
import Gamebook.Play.Navigation

/-! # The order of reading

The nodes of a document that was read are numbered in the order of their opening tags: each is put
into the node before it, or into one that this stands in (`InReadingOrder`). The numbers of the
nodes within a node therefore follow on its own without a gap, and what stands behind it, beside it,
has a larger number than all of them (`lt_of_standsIn`).
-/

namespace Gamebook.Document

open Relation

/-! ## Children and followers -/

variable {d : Document}

theorem pairwise_lt_children (r : d.Ref) : (d.children r).Pairwise (· < ·) := by
  have hnumbers : (d.children r).map Fin.val = childNumbers d.entries r := by
    rw [← d.linked.children_eq r]
    simp [children, List.map_pmap]
  have hsorted : (childNumbers d.entries r).Pairwise (· < ·) :=
    List.Pairwise.filter _ List.pairwise_lt_range
  rw [← hnumbers, List.pairwise_map] at hsorted
  exact hsorted

theorem nodup_children (r : d.Ref) : (d.children r).Nodup :=
  (pairwise_lt_children r).imp fun hlt => Fin.ne_of_lt hlt

/-- The nodes behind a node are the children of its parent with larger numbers. -/
theorem followers_eq_filter {r parent : d.Ref} (h : d.parent? r = some parent) :
    d.followers r = (d.children parent).filter (r < ·) := by
  obtain ⟨before, behind, hchildren, hbefore⟩ :=
    List.eq_append_cons_of_mem (d.mem_children_iff.2 h)
  have hsorted := pairwise_lt_children parent
  rw [hchildren] at hsorted
  obtain ⟨-, hrest, hcross⟩ := List.pairwise_append.1 hsorted
  have hskip : ∀ a ∈ before, (a != r) = true := by
    intro a ha
    rw [bne_iff_ne]
    rintro rfl
    exact hbefore ha
  have hsmaller : ∀ a ∈ before, ¬ decide (r < a) = true := by
    intro a ha hlt
    exact Nat.lt_asymm (of_decide_eq_true hlt) (hcross a ha r List.mem_cons_self)
  have hlarger : ∀ a ∈ behind, decide (r < a) = true := by
    intro a ha
    exact decide_eq_true (List.rel_of_pairwise_cons hrest ha)
  unfold followers
  rw [h]
  dsimp only
  rw [hchildren, List.dropWhile_append_of_pos hskip, List.dropWhile_cons_of_neg (by simp),
    List.drop_succ_cons, List.drop_zero, List.filter_append, List.filter_eq_nil_iff.2 hsmaller,
    List.filter_cons_of_neg (by simp), List.filter_eq_self.2 hlarger, List.nil_append]

theorem mem_followers_iff {r s : d.Ref} :
    s ∈ d.followers r ↔
      ∃ parent, d.parent? r = some parent ∧ d.parent? s = some parent ∧ r < s := by
  cases h : d.parent? r with
  | none => simp [followers, h]
  | some parent => simp [followers_eq_filter h, mem_children_iff]

/-! ## Standing in a node -/

/-- The number of the node that the node with a number stands directly in. -/
def outerNumber? (d : Document) (i : Nat) : Option Nat :=
  d.entries[i]?.bind Entry.parent

/-- The first node is the second or stands in it, at any depth. Nodes are given by their numbers,
which stay what they are while a document grows. -/
def StandsIn (d : Document) : Nat → Nat → Prop :=
  ReflTransGen fun i outer => d.outerNumber? i = some outer

/-- Every node but the root is put into the node before it, or into one that this stands in. -/
def InReadingOrder (d : Document) : Prop :=
  ∀ i, i + 1 < d.size → ∃ outer, d.outerNumber? (i + 1) = some outer ∧ d.StandsIn i outer

theorem outerNumber?_eq_some_iff {r outer : d.Ref} :
    d.outerNumber? r = some outer.val ↔ d.parent? r = some outer := by
  rw [parent?_eq_some_iff, outerNumber?, Array.getElem?_eq_getElem r.isLt]
  rfl

theorem standsIn_of_mem_children {r c : d.Ref} (h : c ∈ d.children r) : d.StandsIn c r :=
  .single (outerNumber?_eq_some_iff.2 (d.mem_children_iff.1 h))

theorem lt_of_outerNumber? {i outer : Nat} (h : d.outerNumber? i = some outer) : outer < i := by
  obtain ⟨entry, hentry, hparent⟩ := Option.bind_eq_some_iff.1 h
  obtain ⟨hlt, rfl⟩ := Array.getElem?_eq_some_iff.1 hentry
  exact d.linked.parent_lt ⟨i, hlt⟩ outer hparent

theorem le_of_standsIn {i outer : Nat} (h : d.StandsIn i outer) : outer ≤ i := by
  induction h with
  | refl => exact Nat.le_refl i
  | tail _ hstep ih => exact Nat.le_trans (Nat.le_of_lt (lt_of_outerNumber? hstep)) ih

/-- The nodes within a node are numbered without a gap. -/
theorem standsIn_of_le (hordered : d.InReadingOrder) {outer i j : Nat} (hi : i < d.size)
    (h : d.StandsIn i outer) (hle : outer ≤ j) (hji : j ≤ i) : d.StandsIn j outer := by
  induction hji with
  | refl => exact h
  | @step i hji ih =>
      obtain ⟨next, hnext, hstands⟩ := hordered i hi
      have hlt : i < d.size := Nat.lt_of_succ_lt hi
      -- The later node stands in the outer one through its parent, which holds the node before it.
      rcases ReflTransGen.cases_head h with heq | ⟨parent, hparent, hrest⟩
      · exact absurd (Nat.le_trans hle hji) (by omega)
      · rw [hnext, Option.some.injEq] at hparent
        subst hparent
        exact ih hlt (hstands.trans hrest)

/-- What stands behind a node, beside it, has a larger number than the nodes within. -/
theorem lt_of_standsIn (hordered : d.InReadingOrder) {r outer s : d.Ref}
    (hr : d.StandsIn r outer) (hs : s ∈ d.followers outer) : r < s := by
  obtain ⟨parent, houter, hparent, hlt⟩ := mem_followers_iff.1 hs
  refine Nat.lt_of_not_le fun hle => ?_
  have hwithin : d.StandsIn s outer :=
    standsIn_of_le hordered r.isLt hr (Nat.le_of_lt hlt) hle
  rcases ReflTransGen.cases_head hwithin with heq | ⟨p, hp, hrest⟩
  · exact Nat.ne_of_gt hlt heq
  · rw [outerNumber?_eq_some_iff.2 hparent, Option.some.injEq] at hp
    subst hp
    have hle := le_of_standsIn hrest
    have hlt := d.parent?_lt houter
    exact absurd hle (Nat.not_le_of_lt hlt)

/-! ## Documents that are read -/

theorem outerNumber?_append (d : Document) (parent : d.Ref) (node : Node) (i : Nat) :
    (d.append parent node).outerNumber? i =
      if i = d.size then some parent.val else d.outerNumber? i :=
  parent_appended d.entries parent node i

/-- A document that comes from another by adding to the end of a node, in the order of reading. -/
structure Continues (d : Document) (parent : Nat) (after : Document) : Prop where
  ordered : after.InReadingOrder
  outer : ∀ i number, d.outerNumber? i = some number → after.outerNumber? i = some number
  last : after.StandsIn (after.size - 1) parent

theorem Continues.standsIn {parent : Nat} {after : Document} (h : d.Continues parent after)
    {i outer : Nat} (hstands : d.StandsIn i outer) : after.StandsIn i outer :=
  ReflTransGen.mono h.outer _ _ hstands

theorem last_append (d : Document) (parent : d.Ref) (node : Node) :
    (d.append parent node).size - 1 = d.size := by
  have hsize : (d.append parent node).size = d.size + 1 := d.size_append parent node
  omega

theorem continues_append {parent : d.Ref} (hordered : d.InReadingOrder)
    (hlast : d.StandsIn (d.size - 1) parent) (node : Node) :
    d.Continues parent (d.append parent node) := by
  have houter : ∀ i number, d.outerNumber? i = some number →
      (d.append parent node).outerNumber? i = some number := by
    intro i number h
    have hne : i ≠ d.size := by
      rintro rfl
      simp [outerNumber?, size] at h
    rw [outerNumber?_append, if_neg hne, h]
  have hnew : (d.append parent node).outerNumber? d.size = some parent.val := by
    rw [outerNumber?_append, if_pos rfl]
  refine ⟨?_, houter, ?_⟩
  · intro i hi
    have hsize := last_append d parent node
    rcases Nat.lt_or_ge (i + 1) d.size with hlt | hge
    · obtain ⟨number, hnumber, hstands⟩ := hordered i hlt
      exact ⟨number, houter _ _ hnumber, ReflTransGen.mono houter _ _ hstands⟩
    · -- The node that was added stands in its parent, which holds the node that was the last.
      have heq : i + 1 = d.size := by omega
      have hi' : i = d.size - 1 := by omega
      refine ⟨parent, ?_, ?_⟩
      · rw [heq, hnew]
      · rw [hi']
        exact ReflTransGen.mono houter _ _ hlast
  · rw [last_append]
    exact .single hnew

theorem Continues.trans {parent inner : Nat} {next after : Document} (h : d.Continues parent next)
    (h' : next.Continues inner after) (hinner : next.StandsIn inner parent) :
    d.Continues parent after where
  ordered := h'.ordered
  outer i number hnumber := h'.outer i number (h.outer i number hnumber)
  last := h'.last.trans (h'.standsIn hinner)

mutual

theorem continues_graft (d : Document) (parent : d.Ref) (hordered : d.InReadingOrder)
    (hlast : d.StandsIn (d.size - 1) parent) :
    (outline : Outline) → d.Continues parent (graft d parent outline).val
  | .branch node children => by
    have hone := continues_append hordered hlast node
    have hinner := hone.last
    have hself : (d.append parent node).StandsIn ((d.append parent node).size - 1) d.size := by
      rw [last_append]
      exact .refl
    rw [last_append] at hinner
    have hlt : d.entries.size < (d.append parent node).entries.size := by
      rw [size_append]
      exact Nat.lt_succ_self _
    have hall := continues_graftAll (d.append parent node) ⟨d.entries.size, hlt⟩ hone.ordered
      hself children
    rw [graft]
    exact hone.trans hall hinner

theorem continues_graftAll (d : Document) (parent : d.Ref) (hordered : d.InReadingOrder)
    (hlast : d.StandsIn (d.size - 1) parent) :
    (outlines : List Outline) → d.Continues parent (graftAll d parent outlines).val
  | [] => by
    rw [graftAll]
    exact ⟨hordered, fun _ _ h => h, hlast⟩
  | first :: rest => by
    have hone := continues_graft d parent hordered hlast first
    have hlt := Nat.lt_of_lt_of_le parent.isLt (graft d parent first).property
    have hall := continues_graftAll (graft d parent first).val ⟨parent, hlt⟩ hone.ordered
      hone.last rest
    rw [graftAll]
    exact hone.trans hall .refl

end

theorem inReadingOrder_ofOutline (outline : Outline) : (ofOutline outline).InReadingOrder := by
  obtain ⟨node, children⟩ := outline
  rw [ofOutline]
  refine (continues_graftAll (single node) (single node).root ?_ .refl children).ordered
  intro i hi
  exact absurd hi (Nat.not_lt.2 (Nat.le_add_left 1 i))

theorem inReadingOrder_of_read {text : String} (h : read text = .ok d) : d.InReadingOrder := by
  unfold read at h
  split at h
  · cases h
  next root _ =>
    unfold ofRoot at h
    cases houtline : Outline.ofRoot root with
    | error fault =>
        rw [houtline] at h
        cases h
    | ok outline =>
        rw [houtline] at h
        change (ofOutline outline).withDistinctIds = .ok d at h
        unfold withDistinctIds at h
        split at h
        · cases h
        · cases h
          exact inReadingOrder_ofOutline outline

end Gamebook.Document
