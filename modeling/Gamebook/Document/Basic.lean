import Gamebook.Document.Node

/-! # Documents

A document is a tree of nodes that are numbered in the order in which they were added, the root
first. A reference is the number of a node of one document, so it can never miss. Main statements:
`parent?_lt` and `lt_of_mem_children` say that numbers grow from parents to children, and
`mem_children_iff` that the two links agree.
-/

namespace Gamebook

/-- A node with its links, given by the numbers of the nodes that they lead to. -/
structure Entry where
  node : Node
  parent : Option Nat
  children : List Nat

/-- The numbers of the nodes whose parent has the number `i`, in increasing order. -/
def childNumbers (entries : Array Entry) (i : Nat) : List Nat :=
  (List.range entries.size).filter fun j => (entries[j]?.bind Entry.parent) == some i

/-- The links of a tree: there is a root, every other node has a parent with a smaller number, and
a node lists those nodes as its children that have it as their parent. -/
structure Linked (entries : Array Entry) : Prop where
  size_pos : 0 < entries.size
  parent_lt : ∀ (i : Fin entries.size) (p : Nat), entries[i].parent = some p → p < i
  root_of_parent : ∀ i : Fin entries.size, entries[i].parent = none → i.val = 0
  children_eq : ∀ i : Fin entries.size, entries[i].children = childNumbers entries i

/-- A tree of numbered nodes. -/
structure Document where
  entries : Array Entry
  linked : Linked entries

namespace Document

/-- The number of nodes. -/
def size (d : Document) : Nat := d.entries.size

/-- The numbers of the nodes of a document. -/
abbrev Ref (d : Document) := Fin d.entries.size

theorem linked_single (root : Node) : Linked #[⟨root, none, []⟩] where
  size_pos := Nat.zero_lt_one
  parent_lt i p h := by
    have hi : i = ⟨0, Nat.zero_lt_one⟩ := Fin.ext (Nat.lt_one_iff.1 i.isLt)
    subst hi
    cases h
  root_of_parent i _ := Nat.lt_one_iff.1 i.isLt
  children_eq i := by
    have hi : i = ⟨0, Nat.zero_lt_one⟩ := Fin.ext (Nat.lt_one_iff.1 i.isLt)
    subst hi
    rfl

/-- The document with nothing but a root. -/
def single (root : Node) : Document :=
  ⟨#[⟨root, none, []⟩], linked_single root⟩

/-- The entry with one more child at the end. -/
def withChild (child : Nat) (entry : Entry) : Entry :=
  { entry with children := entry.children ++ [child] }

/-- The entries with one more node, as the last child of the node with the number `p`. -/
def appended (entries : Array Entry) (p : Nat) (node : Node) : Array Entry :=
  (entries.modify p (withChild entries.size)).push ⟨node, some p, []⟩

theorem size_appended (entries : Array Entry) (p : Nat) (node : Node) :
    (appended entries p node).size = entries.size + 1 := by
  rw [appended, Array.size_push, Array.size_modify]

theorem getElem?_appended (entries : Array Entry) (p : Nat) (node : Node) (i : Nat) :
    (appended entries p node)[i]? =
      if i = entries.size then some ⟨node, some p, []⟩
      else if i = p then entries[i]?.map (withChild entries.size) else entries[i]? := by
  rw [appended, Array.getElem?_push, Array.size_modify]
  split
  · rfl
  · rw [Array.getElem?_modify]
    by_cases h : i = p
    · rw [if_pos h, if_pos h.symm]
    · rw [if_neg h, if_neg fun h' => h h'.symm]

theorem parent_appended (entries : Array Entry) (p : Nat) (node : Node) (i : Nat) :
    (appended entries p node)[i]?.bind Entry.parent =
      if i = entries.size then some p else entries[i]?.bind Entry.parent := by
  rw [getElem?_appended]
  split
  · rfl
  · split
    · cases entries[i]? <;> rfl
    · rfl

theorem childNumbers_appended {entries : Array Entry} {p : Nat} (node : Node) (i : Nat) :
    childNumbers (appended entries p node) i =
      childNumbers entries i ++ if p = i then [entries.size] else [] := by
  unfold childNumbers
  rw [size_appended, List.range_succ, List.filter_append]
  congr 1
  · apply List.filter_congr
    intro j hj
    rw [parent_appended, if_neg (Nat.ne_of_lt (List.mem_range.1 hj))]
  · rw [List.filter_cons, parent_appended, if_pos rfl, List.filter_nil]
    by_cases h : p = i
    · simp [h]
    · simp [h]

theorem childNumbers_size {entries : Array Entry} (linked : Linked entries) :
    childNumbers entries entries.size = [] := by
  unfold childNumbers
  rw [List.filter_eq_nil_iff]
  intro j hj hparent
  have hlt := List.mem_range.1 hj
  rw [Array.getElem?_eq_getElem hlt, Option.bind_some, beq_iff_eq] at hparent
  exact Nat.lt_asymm (linked.parent_lt ⟨j, hlt⟩ entries.size hparent) hlt

theorem lt_size_of_ne {entries : Array Entry} {p : Nat} {node : Node}
    (i : Fin (appended entries p node).size) (hne : i.val ≠ entries.size) :
    i.val < entries.size := by
  have hlt := i.isLt
  have hsize := size_appended entries p node
  omega

theorem linked_appended {entries : Array Entry} (linked : Linked entries) {p : Nat}
    (hp : p < entries.size) (node : Node) : Linked (appended entries p node) where
  size_pos := by
    rw [size_appended]
    exact Nat.succ_pos _
  parent_lt i q hq := by
    have hparent := parent_appended entries p node i
    have hi : (appended entries p node)[i.val]? = some (appended entries p node)[i] :=
      Array.getElem?_eq_getElem i.isLt
    rw [hi, Option.bind_some, hq] at hparent
    split at hparent
    · next heq =>
      cases hparent
      exact heq ▸ hp
    · next hne =>
      have hlt := lt_size_of_ne i hne
      rw [Array.getElem?_eq_getElem hlt, Option.bind_some] at hparent
      exact linked.parent_lt ⟨i, hlt⟩ q hparent.symm
  root_of_parent i hnone := by
    have hparent := parent_appended entries p node i
    have hi : (appended entries p node)[i.val]? = some (appended entries p node)[i] :=
      Array.getElem?_eq_getElem i.isLt
    rw [hi, Option.bind_some, hnone] at hparent
    split at hparent
    · cases hparent
    · next hne =>
      have hlt := lt_size_of_ne i hne
      rw [Array.getElem?_eq_getElem hlt, Option.bind_some] at hparent
      exact linked.root_of_parent ⟨i, hlt⟩ hparent.symm
  children_eq i := by
    have hi : (appended entries p node)[i.val]? = some (appended entries p node)[i] :=
      Array.getElem?_eq_getElem i.isLt
    rw [getElem?_appended] at hi
    rw [childNumbers_appended]
    split at hi
    · next heq =>
      rw [← Option.some.inj hi, heq, childNumbers_size linked,
        if_neg (Nat.ne_of_lt hp)]
      rfl
    · next hne =>
      have hlt := lt_size_of_ne i hne
      have hold := linked.children_eq ⟨i, hlt⟩
      rw [Array.getElem?_eq_getElem hlt] at hi
      split at hi
      · next heq =>
        rw [← Option.some.inj hi, if_pos heq.symm]
        exact congrArg (· ++ [entries.size]) hold
      · next hne' =>
        rw [← Option.some.inj hi, if_neg fun h => hne' h.symm, List.append_nil]
        exact hold

/-- The document with one more node, as the last child of `parent`. -/
def append (d : Document) (parent : d.Ref) (node : Node) : Document :=
  ⟨appended d.entries parent node, linked_appended d.linked parent.isLt node⟩

theorem size_append (d : Document) (parent : d.Ref) (node : Node) :
    (d.append parent node).entries.size = d.entries.size + 1 :=
  size_appended d.entries parent node

variable (d : Document)

/-- The root. -/
def root : d.Ref := ⟨0, d.linked.size_pos⟩

/-- The node with a number, if there is one. -/
def ref? (i : Nat) : Option d.Ref :=
  if h : i < d.entries.size then some ⟨i, h⟩ else none

/-- All references, in the order of their numbers. -/
def refs : List d.Ref := List.finRange d.entries.size

/-- The node that a reference stands for. -/
def node (r : d.Ref) : Node := d.entries[r].node

/-- The kind of a node. -/
def tag (r : d.Ref) : Tag := (d.node r).tag

theorem parent_lt_size (r : d.Ref) (p : Nat) (h : d.entries[r].parent = some p) :
    p < d.entries.size :=
  Nat.lt_trans (d.linked.parent_lt r p h) r.isLt

/-- The node that a node stands directly in. -/
def parent? (r : d.Ref) : Option d.Ref :=
  d.entries[r].parent.pmap (fun p hp => ⟨p, hp⟩) (parent_lt_size d r)

theorem child_lt_size (r : d.Ref) (c : Nat) (h : c ∈ d.entries[r].children) :
    c < d.entries.size := by
  rw [d.linked.children_eq r] at h
  exact List.mem_range.1 (List.mem_filter.1 h).1

/-- The nodes that stand directly in a node, in order. -/
def children (r : d.Ref) : List d.Ref :=
  d.entries[r].children.pmap (fun c hc => ⟨c, hc⟩) (child_lt_size d r)

theorem parent?_eq_some_iff {r p : d.Ref} :
    d.parent? r = some p ↔ d.entries[r].parent = some p.val := by
  unfold parent?
  rw [Option.pmap_eq_some_iff]
  constructor
  · rintro ⟨q, hq, hr, heq⟩
    rw [hr, heq]
  · intro h
    exact ⟨p.val, p.isLt, h, rfl⟩

/-- A parent has a smaller number. -/
theorem parent?_lt {r p : d.Ref} (h : d.parent? r = some p) : p < r :=
  d.linked.parent_lt r p.val (d.parent?_eq_some_iff.1 h)

/-- A node is a child of those nodes that are its parent. -/
theorem mem_children_iff {r c : d.Ref} : c ∈ d.children r ↔ d.parent? c = some r := by
  unfold children
  rw [List.mem_pmap, parent?_eq_some_iff]
  constructor
  · rintro ⟨j, hj, heq⟩
    rw [d.linked.children_eq r, childNumbers, List.mem_filter] at hj
    have hparent := hj.2
    subst heq
    rw [Array.getElem?_eq_getElem (List.mem_range.1 hj.1), Option.bind_some, beq_iff_eq] at hparent
    exact hparent
  · intro h
    refine ⟨c.val, ?_, rfl⟩
    rw [d.linked.children_eq r, childNumbers, List.mem_filter]
    refine ⟨List.mem_range.2 c.isLt, ?_⟩
    rw [Array.getElem?_eq_getElem c.isLt, Option.bind_some, beq_iff_eq]
    exact h

/-- A child has a larger number. -/
theorem lt_of_mem_children {r c : d.Ref} (h : c ∈ d.children r) : r < c :=
  d.parent?_lt (d.mem_children_iff.1 h)

end Document

end Gamebook
