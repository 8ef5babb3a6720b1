import Mathlib.Data.List.Flatten
import Gamebook.Proofs.Document.Walks

/-! # Walks with a stack

Nodes can be added to any node that is there, so the numbers of a document need not be the order of
reading (`Additions`). A walk through it works off a stack, one node in every turn. What was listed
and what stands in the nodes on the stack make up the same list after a turn as before it
(`outcome_of_turn?`), with one node less to come, so the walk ends with that list (`after_eq`). It
is the only list that names each node before what stands in it and goes from child to child
(`readsThrough_iff`).
-/

namespace Gamebook.Document

/-! ## Documents in the making -/

/-- Nodes that are added to a document one after the other, each as the last child of any node that
is there by then. -/
inductive Additions : Document → Type
  | done {d : Document} : Additions d
  | add {d : Document} (parent : d.Ref) (node : Node) (rest : Additions (d.append parent node)) :
      Additions d

/-- The document with all the nodes added. -/
def Additions.document {d : Document} : Additions d → Document
  | .done => d
  | .add _ _ rest => rest.document

variable {d : Document}

/-! ## Turns of a walk -/

/-- A walk under way: the nodes that were listed, in order, and the stack of those that wait, from
the top. -/
structure Walk (d : Document) where
  listed : List d.Ref
  stack : List d.Ref

namespace Walk

/-- The walk from a node before its first turn. -/
def start (r : d.Ref) : Walk d :=
  ⟨[], [r]⟩

/-- The walk after one more turn, unless the stack is empty. The node on top is taken off and
listed, and its children are put on, the last one first. -/
def turn? : Walk d → Option (Walk d)
  | ⟨_, []⟩ => none
  | ⟨listed, r :: stack⟩ =>
    some ⟨listed ++ [r], (d.children r).reverse.foldl (fun stack child => child :: stack) stack⟩

/-- The walk after a number of turns, if there are as many. -/
def after : Nat → Walk d → Option (Walk d)
  | 0, walk => some walk
  | turns + 1, walk => walk.turn?.bind (after turns)

/-- What stands in the nodes on the stack and is still to be listed. -/
def remaining (walk : Walk d) : List d.Ref :=
  walk.stack.flatMap d.descendants

/-- What was listed, and what is still to be listed. -/
def outcome (walk : Walk d) : List d.Ref :=
  walk.listed ++ walk.remaining

theorem turn?_cons (listed : List d.Ref) (r : d.Ref) (stack : List d.Ref) :
    turn? ⟨listed, r :: stack⟩ = some ⟨listed ++ [r], d.children r ++ stack⟩ := by
  rw [turn?, List.foldl_flip_cons_eq_append', List.reverse_reverse]

theorem turn?_eq_none_iff {walk : Walk d} : walk.turn? = none ↔ walk.stack = [] := by
  obtain ⟨listed, stack⟩ := walk
  cases stack with
  | nil => simp [turn?]
  | cons r stack => simp [turn?]

/-- A turn lists the first of the nodes that are still to be listed. -/
theorem exists_remaining_of_turn? {walk next : Walk d} (h : walk.turn? = some next) :
    ∃ r, next.listed = walk.listed ++ [r] ∧ walk.remaining = r :: next.remaining := by
  obtain ⟨listed, stack⟩ := walk
  cases stack with
  | nil => cases h
  | cons r stack =>
      rw [turn?_cons] at h
      cases h
      exact ⟨r, rfl, flatMap_descendants_cons r stack⟩

/-- A turn does not change what a walk comes to. -/
theorem outcome_of_turn? {walk next : Walk d} (h : walk.turn? = some next) :
    next.outcome = walk.outcome := by
  obtain ⟨r, hlisted, hremaining⟩ := exists_remaining_of_turn? h
  rw [outcome, outcome, hlisted, hremaining, List.append_assoc, List.singleton_append]

/-- There is another turn for as long as something is to be listed. -/
theorem remaining_eq_nil_iff {walk : Walk d} : walk.remaining = [] ↔ walk.turn? = none := by
  constructor
  · intro h
    cases hturn : walk.turn? with
    | none => rfl
    | some next =>
        obtain ⟨r, -, hremaining⟩ := exists_remaining_of_turn? hturn
        cases h.symm.trans hremaining
  · intro h
    rw [remaining, turn?_eq_none_iff.1 h, List.flatMap_nil]

/-- A walk ends after as many turns as there are nodes still to be listed. -/
theorem after_eq {turns : Nat} {walk : Walk d} (h : walk.remaining.length = turns) :
    walk.after turns = some ⟨walk.outcome, []⟩ := by
  induction turns generalizing walk with
  | zero =>
      have hremaining := List.length_eq_zero_iff.1 h
      have hstack := turn?_eq_none_iff.1 (remaining_eq_nil_iff.1 hremaining)
      rw [after, outcome, hremaining, List.append_nil, ← hstack]
  | succ turns ih =>
      cases hturn : walk.turn? with
      | none =>
          rw [remaining_eq_nil_iff.2 hturn] at h
          cases h
      | some next =>
          obtain ⟨r, -, hremaining⟩ := exists_remaining_of_turn? hturn
          rw [hremaining, List.length_cons, Nat.add_right_cancel_iff] at h
          rw [after, hturn, Option.bind_some, ih h, outcome_of_turn? hturn]

/-- The walk from a node ends, in no more turns than there are nodes. -/
theorem exists_after_start (r : d.Ref) :
    ∃ turns ≤ d.size, (start r).after turns = some ⟨d.descendants r, []⟩ := by
  have hremaining : (start r).remaining = d.descendants r := List.flatMap_singleton _ _
  refine ⟨(d.descendants r).length, length_descendants_le r, ?_⟩
  rw [after_eq (congrArg List.length hremaining), outcome, hremaining]
  rfl

end Walk

/-! ## The order of a walk -/

/-- A list goes through a node: it lists what stands in the node, parents before their children, and
what stands in one child before what stands in the children behind it. -/
structure ReadsThrough (d : Document) (r : d.Ref) (nodes : List d.Ref) : Prop where
  /-- It lists what stands in the node. -/
  mem_iff : ∀ s, s ∈ nodes ↔ d.StandsIn s r
  /-- It lists nothing twice. -/
  nodup : nodes.Nodup
  /-- A parent comes before its children. -/
  parent_first : ∀ p ∈ nodes, ∀ c ∈ d.children p, nodes.idxOf p < nodes.idxOf c
  /-- What stands in a child comes before what stands in a child behind it. -/
  children_in_turn : ∀ p ∈ nodes, ∀ a ∈ d.children p, ∀ b ∈ d.children p,
    (d.children p).idxOf a < (d.children p).idxOf b →
      ∀ s : d.Ref, d.StandsIn s a → ∀ t : d.Ref, d.StandsIn t b → nodes.idxOf s < nodes.idxOf t

theorem pairwise_idxOf_lt {nodes : List d.Ref} (h : nodes.Nodup) :
    nodes.Pairwise fun s t => nodes.idxOf s < nodes.idxOf t := by
  rw [List.pairwise_iff_getElem]
  intro i j hi hj hlt
  rwa [h.idxOf_getElem, h.idxOf_getElem]

theorem rel_of_idxOf_lt {R : d.Ref → d.Ref → Prop} {nodes : List d.Ref} (h : nodes.Pairwise R)
    {s t : d.Ref} (hs : s ∈ nodes) (ht : t ∈ nodes) (hlt : nodes.idxOf s < nodes.idxOf t) :
    R s t := by
  have hrel := List.pairwise_iff_getElem.1 h _ _ (List.idxOf_lt_length_of_mem hs)
    (List.idxOf_lt_length_of_mem ht) hlt
  rwa [List.getElem_idxOf, List.getElem_idxOf] at hrel

/-- The walk from a node keeps the order of the walks from the nodes that stand in it. -/
theorem descendants_sublist {p r : d.Ref} (h : d.StandsIn p r) :
    (d.descendants p).Sublist (d.descendants r) := by
  induction r using induction_children with
  | step r ih =>
      rcases standsIn_iff.1 h with rfl | ⟨c, hc, hwithin⟩
      · exact .refl _
      · have hchild : (d.descendants c).Sublist ((d.children r).flatMap d.descendants) := by
          rw [← List.flatMap_singleton d.descendants c]
          exact (List.singleton_sublist.2 hc).flatMap _
        rw [descendants_eq r]
        exact ((ih c hc hwithin).trans hchild).cons r

theorem readsThrough_descendants (r : d.Ref) : d.ReadsThrough r (d.descendants r) := by
  have hpairwise (p : d.Ref) (hp : p ∈ d.descendants r) :
      (d.descendants p).Pairwise fun s t =>
        (d.descendants r).idxOf s < (d.descendants r).idxOf t :=
    (pairwise_idxOf_lt (nodup_descendants r)).sublist
      (descendants_sublist (mem_descendants_iff.1 hp))
  refine ⟨fun s => mem_descendants_iff, nodup_descendants r, ?_, ?_⟩
  · intro p hp c hc
    exact (pairwise_descendants_iff.1 (hpairwise p hp)).1 c c hc .refl
  · intro p hp a ha b hb hlt
    exact rel_of_idxOf_lt (pairwise_descendants_iff.1 (hpairwise p hp)).2.2 ha hb hlt

/-- A list that goes through a node keeps the order of the walks from the nodes that stand in it. -/
theorem ReadsThrough.pairwise_descendants {r q : d.Ref} {nodes : List d.Ref}
    (h : d.ReadsThrough r nodes) (hq : d.StandsIn q r) :
    (d.descendants q).Pairwise fun s t => nodes.idxOf s < nodes.idxOf t := by
  induction q using induction_children with
  | step q ih =>
      have hmem : q ∈ nodes := (h.mem_iff q).2 hq
      have hchild (c : d.Ref) (hc : c ∈ d.children q) :
          (d.descendants c).Pairwise fun s t => nodes.idxOf s < nodes.idxOf t :=
        ih c hc ((standsIn_of_mem_children hc).trans hq)
      refine pairwise_descendants_iff.2 ⟨?_, hchild, ?_⟩
      · -- The node comes before its child, and the child before what else stands in it.
        intro s c hc hs
        have hfirst := h.parent_first q hmem c hc
        rcases standsIn_iff.1 hs with rfl | ⟨next, hnext, hrest⟩
        · exact hfirst
        · exact hfirst.trans ((pairwise_descendants_iff.1 (hchild c hc)).1 s next hnext hrest)
      · exact (pairwise_idxOf_lt (nodup_children q)).imp_of_mem fun ha hb =>
          h.children_in_turn q hmem _ ha _ hb

/-- The walk from a node goes through the node, and no other list does. -/
theorem readsThrough_iff {r : d.Ref} {nodes : List d.Ref} :
    d.ReadsThrough r nodes ↔ nodes = d.descendants r := by
  constructor
  · intro h
    have hperm : nodes.Perm (d.descendants r) :=
      (List.perm_ext_iff_of_nodup h.nodup (nodup_descendants r)).2 fun s =>
        (h.mem_iff s).trans mem_descendants_iff.symm
    refine hperm.eq_of_pairwise ?_ (pairwise_idxOf_lt h.nodup) (h.pairwise_descendants .refl)
    intro s t _ _ hlt hgt
    exact absurd hgt (Nat.lt_asymm hlt)
  · rintro rfl
    exact readsThrough_descendants r

/-- The walk from the root lists every node once. -/
theorem perm_descendants_root (d : Document) : (d.descendants d.root).Perm d.refs := by
  refine (List.perm_ext_iff_of_nodup (nodup_descendants d.root) (List.nodup_finRange _)).2 ?_
  intro r
  exact iff_of_true (mem_descendants_root r) (List.mem_finRange r)

/-- Wherever nodes are added to a root, the walk from any node works off its stack in no more turns
than there are nodes, and it ends with the one list that goes through the node. The walk from the
root lists every node once, and the way up from any node leads to the root. -/
theorem readsThrough_iff_of_additions (root : Node) (additions : Additions (single root)) :
    let d := additions.document
    (∀ r : d.Ref,
      (∃ turns ≤ d.size, (Walk.start r).after turns = some ⟨d.descendants r, []⟩) ∧
      ∀ nodes, d.ReadsThrough r nodes ↔ nodes = d.descendants r) ∧
    (d.descendants d.root).Perm d.refs ∧
    ∀ r : d.Ref, d.top r = d.root := by
  intro d
  refine ⟨?_, perm_descendants_root d, top_eq_root⟩
  intro r
  exact ⟨Walk.exists_after_start r, fun nodes => readsThrough_iff⟩

/-- A card, a choice in it, a trigger behind the card, and another card, which is added to the
choice last and is still met before the trigger. -/
example :
    let additions : Additions (single (.bare .quest)) :=
      .add ⟨0, by decide⟩ (.bare .roleplay) <| .add ⟨1, by decide⟩ (.bare .choice) <|
        .add ⟨0, by decide⟩ (.bare .trigger) <| .add ⟨2, by decide⟩ (.bare .roleplay) .done
    let d := additions.document
    (d.descendants d.root).map Fin.val = [0, 1, 2, 4, 3] := by
  decide +kernel

end Gamebook.Document
