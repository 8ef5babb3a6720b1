import Gamebook.Document.Basic

/-! # Walks through a document

A walk lists a node and all nodes within it, parents before their children and the children of a
node in order. It ends because children have larger numbers than their parents; the way up to the
root ends because parents have smaller ones.
-/

namespace Gamebook.Document

/-- A node and all nodes within it, in the order of their opening tags. -/
def descendants (d : Document) (r : d.Ref) : List d.Ref :=
  r :: (d.children r).attach.flatMap fun c => d.descendants c.val
termination_by d.entries.size - r.val
decreasing_by
  have hlt : r.val < c.val.val := d.lt_of_mem_children c.property
  omega

/-- The node that is reached by going up for as long as there is a parent. -/
def top (d : Document) (r : d.Ref) : d.Ref :=
  match _h : d.parent? r with
  | some parent => d.top parent
  | none => r
termination_by r.val
decreasing_by exact d.parent?_lt _h

/-- The first node within `within`, itself included, that has the given id. -/
def find? (d : Document) (within : d.Ref) (id : String) : Option d.Ref :=
  (d.descendants within).find? fun r => (d.node r).id? == some id

end Gamebook.Document
