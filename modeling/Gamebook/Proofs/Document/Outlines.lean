import Mathlib.Data.List.Forall2
import Gamebook.Proofs.Document.Walks
import Gamebook.Proofs.Result

/-! # From markup to nodes

Every node of a document is made from one piece of its markup. `placements_ofOutline` says that a
document has the nodes of its outline, each within the node that it is within there, and
`made_of_ofRoot` that those are the nodes made from the pieces of markup, in the order of their
opening tags.
-/

namespace Gamebook

/-! ## Nodes and the nodes that they stand in -/

namespace Outline

/-- The outermost node of an outline. -/
def node : Outline → Node
  | .branch node _ => node

mutual

/-- The nodes of an outline in the order of their opening tags, each with the node that it stands
directly in. The whole outline stands in `outer`. -/
def placements (outer : Option Node) : Outline → List (Option Node × Node)
  | .branch node children => (outer, node) :: placementsAll (some node) children

/-- The nodes of outlines that stand one after the other in `outer`. -/
def placementsAll (outer : Option Node) : List Outline → List (Option Node × Node)
  | [] => []
  | first :: rest => first.placements outer ++ placementsAll outer rest

end

theorem placementsAll_append (outer : Option Node) (xs ys : List Outline) :
    placementsAll outer (xs ++ ys) = placementsAll outer xs ++ placementsAll outer ys := by
  induction xs with
  | nil => rfl
  | cons first rest ih => rw [List.cons_append, placementsAll, placementsAll, ih, List.append_assoc]

end Outline

namespace Document

variable {d : Document}

/-- The node that a node stands directly in. -/
def outerNode? (d : Document) (r : d.Ref) : Option Node :=
  (d.parent? r).map d.node

/-- The nodes of a document in the order of their numbers, each with the node that it stands
directly in. -/
def placements (d : Document) : List (Option Node × Node) :=
  d.refs.map fun r => (d.outerNode? r, d.node r)

theorem length_placements (d : Document) : d.placements.length = d.size := by
  rw [placements, List.length_map, refs, List.length_finRange]
  rfl

theorem getElem?_placements (d : Document) (r : d.Ref) :
    d.placements[r.val]? = some (d.outerNode? r, d.node r) := by
  rw [placements, List.getElem?_map, refs, List.getElem?_eq_getElem (by simp)]
  simp

/-- A document that begins with the nodes of another has these under the same numbers. -/
theorem node_eq_of_placements {grown : Document} {more : List (Option Node × Node)}
    (h : grown.placements = d.placements ++ more) (r : d.Ref) (hr : r.val < grown.entries.size) :
    grown.node ⟨r.val, hr⟩ = d.node r := by
  have hgrown : grown.placements[r.val]? = some (grown.outerNode? ⟨r.val, hr⟩, _) :=
    getElem?_placements grown ⟨r.val, hr⟩
  have hlt : r.val < d.placements.length := by
    rw [length_placements]
    exact r.isLt
  rw [h, List.getElem?_append_left hlt, getElem?_placements] at hgrown
  exact (congrArg Prod.snd (Option.some.inj hgrown)).symm

theorem node_append (parent : d.Ref) (new : Node) (r : (d.append parent new).Ref) :
    (d.append parent new).node r =
      if h : r.val < d.entries.size then d.node ⟨r.val, h⟩ else new := by
  have hentry : (d.append parent new).entries[r.val]? = some (d.append parent new).entries[r] :=
    Array.getElem?_eq_getElem r.isLt
  have hsize := d.size_append parent new
  have hlt := r.isLt
  change (appended d.entries parent new)[r.val]? = _ at hentry
  rw [getElem?_appended] at hentry
  unfold node
  split at hentry
  next heq =>
    rw [dif_neg (by omega), ← Option.some.inj hentry]
  next hne =>
    have hold : r.val < d.entries.size := by omega
    rw [dif_pos hold]
    rw [Array.getElem?_eq_getElem hold] at hentry
    split at hentry
    · rw [← Option.some.inj hentry]
      rfl
    · rw [← Option.some.inj hentry]
      rfl

theorem outerNode?_append (parent : d.Ref) (new : Node) (r : (d.append parent new).Ref) :
    (d.append parent new).outerNode? r =
      if h : r.val < d.entries.size then d.outerNode? ⟨r.val, h⟩ else some (d.node parent) := by
  cases hparent : (d.append parent new).parent? r with
  | none =>
      -- Only the root stands in no other node, and it was there before.
      have hroot := parent?_eq_none_iff.1 hparent
      subst hroot
      have hpos : (d.append parent new).root.val < d.entries.size := d.linked.size_pos
      rw [outerNode?, hparent, dif_pos hpos]
      change none = d.outerNode? d.root
      rw [outerNode?, parent?_eq_none_iff.2 rfl]
      rfl
  | some p =>
      have hnumber := outerNumber?_eq_some_iff.2 hparent
      rw [outerNumber?_append] at hnumber
      rw [outerNode?, hparent, Option.map_some, node_append]
      split at hnumber
      next heq =>
        have hp : p.val = parent.val := (Option.some.inj hnumber).symm
        have hlt : p.val < d.entries.size := hp ▸ parent.isLt
        have hge : ¬ r.val < d.entries.size := Nat.not_lt.2 (Nat.le_of_eq heq.symm)
        rw [dif_pos hlt, dif_neg hge]
        exact congrArg (fun q => some (d.node q)) (Fin.ext hp)
      next hne =>
        have hsize := d.size_append parent new
        have hr := r.isLt
        have hlt : r.val < d.entries.size := by
          have hne' : r.val ≠ d.entries.size := hne
          omega
        have hp : p.val < d.entries.size := Nat.lt_trans (lt_of_outerNumber? hnumber) hlt
        have hold : d.parent? ⟨r.val, hlt⟩ = some ⟨p.val, hp⟩ := outerNumber?_eq_some_iff.1 hnumber
        rw [dif_pos hp, dif_pos hlt, outerNode?, hold]
        rfl

/-- A node that is added is the last, and stands in the node that it was added to. -/
theorem placements_append (parent : d.Ref) (new : Node) :
    (d.append parent new).placements = d.placements ++ [(some (d.node parent), new)] := by
  have hsize := d.size_append parent new
  apply List.ext_getElem
  · rw [List.length_append, length_placements, length_placements]
    exact hsize
  · intro i hi _
    have hlt : i < (d.append parent new).entries.size := by
      rw [length_placements] at hi
      exact hi
    have hnew := getElem?_placements (d.append parent new) ⟨i, hlt⟩
    rw [List.getElem?_eq_getElem hi, Option.some.injEq, outerNode?_append, node_append] at hnew
    rw [hnew]
    dsimp only
    by_cases h : i < d.entries.size
    · have hold := getElem?_placements d ⟨i, h⟩
      have hi' : i < d.placements.length := by
        rw [length_placements]
        exact h
      rw [List.getElem?_eq_getElem hi', Option.some.injEq] at hold
      rw [dif_pos h, dif_pos h, List.getElem_append_left hi', hold]
    · have hlast : i = d.placements.length := by
        rw [length_placements]
        change i = d.entries.size
        omega
      rw [dif_neg h, dif_neg h, List.getElem_append_right (Nat.le_of_eq hlast.symm)]
      simp

mutual

theorem placements_graft (d : Document) (parent : d.Ref) :
    (outline : Outline) → (graft d parent outline).val.placements =
      d.placements ++ outline.placements (some (d.node parent))
  | .branch node children => by
    have hlt : d.entries.size < (d.append parent node).entries.size := by
      rw [size_append]
      exact Nat.lt_succ_self _
    have hall := placements_graftAll (d.append parent node) ⟨d.entries.size, hlt⟩ children
    rw [placements_append, node_append, dif_neg (Nat.lt_irrefl _)] at hall
    rw [graft]
    dsimp only
    rw [hall, List.append_assoc]
    rfl

theorem placements_graftAll (d : Document) (parent : d.Ref) :
    (outlines : List Outline) → (graftAll d parent outlines).val.placements =
      d.placements ++ Outline.placementsAll (some (d.node parent)) outlines
  | [] => by
    rw [graftAll, Outline.placementsAll, List.append_nil]
    rfl
  | first :: rest => by
    have hone := placements_graft d parent first
    have hlt := Nat.lt_of_lt_of_le parent.isLt (graft d parent first).property
    have hall := placements_graftAll (graft d parent first).val ⟨parent, hlt⟩ rest
    rw [node_eq_of_placements hone, hone, List.append_assoc] at hall
    rw [graftAll]
    dsimp only
    rw [hall, Outline.placementsAll]

end

/-- A document has the nodes of its outline, and each of them stands where it stands there. -/
theorem placements_ofOutline (outline : Outline) :
    (ofOutline outline).placements = outline.placements none := by
  obtain ⟨node, children⟩ := outline
  rw [ofOutline, placements_graftAll]
  rfl

theorem node_root_ofOutline (outline : Outline) :
    (ofOutline outline).node (ofOutline outline).root = outline.node := by
  have hroot := getElem?_placements (ofOutline outline) (ofOutline outline).root
  rw [placements_ofOutline] at hroot
  cases outline with
  | branch node children => exact (congrArg Prod.snd (Option.some.inj hroot)).symm

end Document

/-! ## Nodes and the markup that they are made from -/

namespace Markup

/-- The node that a piece of markup makes, if it makes one. -/
def Node.made? : Node → Option Gamebook.Node
  | .text content span => (Outline.looseText? content span).map Outline.node
  | .element name attributes children span =>
    (Tag.ofElement? name).map fun tag =>
      if tag.isLeaf then Outline.leafNode tag (Outline.attributeMap attributes) children span
      else ⟨tag, Outline.attributeMap attributes, "", "", some span⟩

mutual

/-- The pieces of markup that make nodes, in the order of their opening tags. What stands within a
leaf makes none. -/
def Node.makers : Node → List Node
  | .text content span =>
    if (Node.text content span).made?.isSome then [.text content span] else []
  | .element name attributes children span =>
    .element name attributes children span ::
      if (Tag.ofElement? name).any Tag.isLeaf then [] else makersAll children

/-- The pieces among several that make nodes. -/
def makersAll : List Node → List Node
  | [] => []
  | first :: rest => first.makers ++ makersAll rest

end

end Markup

namespace Outline

theorem looseText?_eq_some {content : String} {span : Span} {outline : Outline}
    (h : looseText? content span = some outline) :
    Text.trim content.toList ≠ [] ∧
      outline = .branch ⟨.text, NameMap.empty, String.ofList (Text.trim content.toList),
        String.ofList (Text.escapeText (Text.trim content.toList)), some span⟩ [] := by
  unfold looseText? at h
  dsimp only at h
  split at h
  · cases h
  next hne =>
    cases h
    exact ⟨fun heq => hne (by rw [heq]; rfl), rfl⟩

/-- An element that may stand within a node makes an outline: a leaf by itself, any other with the
outlines of what stands within it. -/
theorem ofMarkup_element_eq_ok {parent : Tag} {name : String} {attributes : List (String × String)}
    {children : List Markup.Node} {span : Span} {found : Option Outline}
    (h : ofMarkup parent (.element name attributes children span) = .ok found) :
    ∃ tag, Tag.ofElement? name = some tag ∧ tag ≠ .quest ∧
      ((tag.isLeaf = true ∧
        found = some (.branch (leafNode tag (attributeMap attributes) children span) [])) ∨
      (tag.isLeaf = false ∧ ∃ outlines, ofMarkups tag children = .ok outlines ∧
        found = some (.branch ⟨tag, attributeMap attributes, "", "", some span⟩ outlines))) := by
  rw [ofMarkup] at h
  split at h
  · cases h
  next tag htag =>
    refine ⟨tag, htag, ?_⟩
    split at h
    · cases h
    next hquest =>
      refine ⟨hquest, ?_⟩
      split at h
      next hleaf =>
        cases h
        exact Or.inl ⟨hleaf, rfl⟩
      next hleaf =>
        split at h
        · cases h
        next outlines houtlines =>
          cases h
          exact Or.inr ⟨Bool.eq_false_iff.2 hleaf, outlines, houtlines, rfl⟩

theorem ofMarkups_cons_eq_ok {parent : Tag} {first : Markup.Node} {rest : List Markup.Node}
    {outlines : List Outline} (h : ofMarkups parent (first :: rest) = .ok outlines) :
    ∃ found others, ofMarkup parent first = .ok found ∧ ofMarkups parent rest = .ok others ∧
      outlines = found.toList ++ others := by
  rw [ofMarkups] at h
  split at h
  · cases h
  next found hfound =>
    split at h
    · cases h
    next others hothers =>
      cases h
      exact ⟨found, others, hfound, hothers, rfl⟩

theorem ofRoot_eq_ok {root : Markup.Node} {outline : Outline} (h : ofRoot root = .ok outline) :
    ∃ name attributes children span outlines,
      root = .element name attributes children span ∧ Tag.ofElement? name = some .quest ∧
        ofMarkups .quest children = .ok outlines ∧
        outline = .branch ⟨.quest, attributeMap attributes, "", "", some span⟩ outlines := by
  unfold ofRoot at h
  split at h
  · cases h
  next name attributes children span =>
    split at h
    next htag =>
      split at h
      · cases h
      next outlines houtlines =>
        cases h
        exact ⟨name, attributes, children, span, outlines, rfl, htag, houtlines, rfl⟩
    · cases h

mutual

theorem made_of_ofMarkup (parent : Tag) (outer : Option Node) :
    (piece : Markup.Node) → (found : Option Outline) → ofMarkup parent piece = .ok found →
      piece.makers.map Markup.Node.made? =
        (placementsAll outer found.toList).map fun placement => some placement.2
  | .text content span, found, h => by
    rw [ofMarkup] at h
    cases h
    cases hloose : looseText? content span with
    | none => simp [Markup.Node.makers, Markup.Node.made?, hloose, placementsAll]
    | some outline =>
        obtain ⟨-, rfl⟩ := looseText?_eq_some hloose
        simp [Markup.Node.makers, Markup.Node.made?, hloose, placementsAll, placements, node]
  | .element name attributes children span, found, h => by
    obtain ⟨tag, htag, -, ⟨hleaf, rfl⟩ | ⟨hleaf, outlines, houtlines, rfl⟩⟩ :=
      ofMarkup_element_eq_ok h
    · simp [Markup.Node.makers, Markup.Node.made?, htag, hleaf, placementsAll, placements]
    · have hchildren := made_of_ofMarkups tag
        (some ⟨tag, attributeMap attributes, "", "", some span⟩) children outlines houtlines
      simp [Markup.Node.makers, Markup.Node.made?, htag, hleaf, placementsAll, placements,
        hchildren]

/-- The nodes of outlines are those that the pieces of their markup make. -/
theorem made_of_ofMarkups (parent : Tag) (outer : Option Node) :
    (pieces : List Markup.Node) → (outlines : List Outline) →
      ofMarkups parent pieces = .ok outlines →
      (Markup.makersAll pieces).map Markup.Node.made? =
        (placementsAll outer outlines).map fun placement => some placement.2
  | [], outlines, h => by
    rw [ofMarkups] at h
    cases h
    rfl
  | first :: rest, outlines, h => by
    obtain ⟨found, others, hfound, hothers, rfl⟩ := ofMarkups_cons_eq_ok h
    rw [Markup.makersAll, List.map_append, placementsAll_append, List.map_append,
      made_of_ofMarkup parent outer first found hfound,
      made_of_ofMarkups parent outer rest others hothers]

end

/-- The nodes of a gamebook are those that the pieces of its markup make. -/
theorem made_of_ofRoot {root : Markup.Node} {outline : Outline} (h : ofRoot root = .ok outline) :
    root.makers.map Markup.Node.made? =
      (outline.placements none).map fun placement => some placement.2 := by
  obtain ⟨name, attributes, children, span, outlines, rfl, htag, houtlines, rfl⟩ := ofRoot_eq_ok h
  have hchildren := made_of_ofMarkups .quest
    (some ⟨.quest, attributeMap attributes, "", "", some span⟩) children outlines houtlines
  simp [Markup.Node.makers, Markup.Node.made?, htag, Tag.isLeaf, placements, hchildren]

/-- A node within another node: that one is no leaf, and the node itself is not the whole gamebook
and has its place in the text. -/
structure IsWithin (outer : Option Node) (node : Node) : Prop where
  outer_not_leaf : ∃ around, outer = some around ∧ around.tag.isLeaf = false
  not_quest : node.tag ≠ .quest
  has_span : node.span.isSome = true

mutual

theorem isWithin_of_ofMarkup (parent : Tag) (outer : Node) (houter : outer.tag.isLeaf = false) :
    (piece : Markup.Node) → (found : Option Outline) → ofMarkup parent piece = .ok found →
      ∀ placement ∈ placementsAll (some outer) found.toList, IsWithin placement.1 placement.2
  | .text content span, found, h, placement, hmem => by
    rw [ofMarkup] at h
    cases h
    cases hloose : looseText? content span with
    | none =>
        rw [hloose] at hmem
        cases hmem
    | some outline =>
        obtain ⟨-, rfl⟩ := looseText?_eq_some hloose
        rw [hloose] at hmem
        obtain rfl := List.mem_singleton.1 hmem
        exact ⟨⟨outer, rfl, houter⟩, by simp, rfl⟩
  | .element name attributes children span, found, h, placement, hmem => by
    obtain ⟨tag, -, hquest, ⟨hleaf, rfl⟩ | ⟨hleaf, outlines, houtlines, rfl⟩⟩ :=
      ofMarkup_element_eq_ok h
    · obtain rfl := List.mem_singleton.1 hmem
      exact ⟨⟨outer, rfl, houter⟩, hquest, rfl⟩
    · simp only [Option.toList_some, placementsAll, placements, List.append_nil,
        List.mem_cons] at hmem
      rcases hmem with rfl | hmem
      · exact ⟨⟨outer, rfl, houter⟩, hquest, rfl⟩
      · exact isWithin_of_ofMarkups tag ⟨tag, attributeMap attributes, "", "", some span⟩ hleaf
          children outlines houtlines placement hmem

/-- No leaf has nodes within it, and only the root is the whole gamebook. -/
theorem isWithin_of_ofMarkups (parent : Tag) (outer : Node) (houter : outer.tag.isLeaf = false) :
    (pieces : List Markup.Node) → (outlines : List Outline) →
      ofMarkups parent pieces = .ok outlines →
      ∀ placement ∈ placementsAll (some outer) outlines, IsWithin placement.1 placement.2
  | [], outlines, h, placement, hmem => by
    rw [ofMarkups] at h
    cases h
    cases hmem
  | first :: rest, outlines, h, placement, hmem => by
    obtain ⟨found, others, hfound, hothers, rfl⟩ := ofMarkups_cons_eq_ok h
    rw [placementsAll_append, List.mem_append] at hmem
    rcases hmem with hmem | hmem
    · exact isWithin_of_ofMarkup parent outer houter first found hfound placement hmem
    · exact isWithin_of_ofMarkups parent outer houter rest others hothers placement hmem

end

end Outline

namespace Document

variable {d : Document}

/-- A document is read from the outline of its root element, and its ids differ. -/
theorem exists_outline_of_read {text : String} (h : read text = .ok d) :
    ∃ root outline, Markup.read text.toList = .ok root ∧ Outline.ofRoot root = .ok outline ∧
      d = ofOutline outline ∧ repeatedId? [] ((d.descendants d.root).map d.node) = none := by
  unfold read at h
  split at h
  · cases h
  next root hroot =>
    obtain ⟨outline, houtline, h⟩ := Except.bind_eq_ok_iff.1 h
    unfold withDistinctIds at h
    split at h
    · cases h
    next hids =>
      cases h
      exact ⟨root, outline, hroot, houtline, rfl, hids⟩

/-- The pieces of markup that make nodes make those of the document, in the order of their
numbers. -/
theorem made_of_read {text : String} (h : read text = .ok d) :
    ∃ root, Markup.read text.toList = .ok root ∧
      root.makers.map Markup.Node.made? = d.refs.map fun r => some (d.node r) := by
  obtain ⟨root, outline, hroot, houtline, rfl, -⟩ := exists_outline_of_read h
  refine ⟨root, hroot, ?_⟩
  rw [Outline.made_of_ofRoot houtline, ← placements_ofOutline, placements, List.map_map]
  rfl

/-- Every node but the root stands in a node that is no leaf. -/
theorem isWithin_of_read {text : String} (h : read text = .ok d) {r : d.Ref} (hr : r ≠ d.root) :
    Outline.IsWithin (d.outerNode? r) (d.node r) := by
  obtain ⟨root, outline, -, houtline, rfl, -⟩ := exists_outline_of_read h
  obtain ⟨name, attributes, children, span, outlines, -, -, houtlines, rfl⟩ :=
    Outline.ofRoot_eq_ok houtline
  have hmem := List.mem_of_getElem? (getElem?_placements _ r)
  rw [placements_ofOutline, Outline.placements, List.mem_cons] at hmem
  rcases hmem with heq | hmem
  · -- Only the root stands in no other node.
    have hnone := congrArg Prod.fst heq
    rw [outerNode?, Option.map_eq_none_iff, parent?_eq_none_iff] at hnone
    exact absurd hnone hr
  · exact Outline.isWithin_of_ofMarkups .quest _ rfl children outlines houtlines _ hmem

theorem root_of_read {text : String} (h : read text = .ok d) :
    d.tag d.root = .quest ∧ (d.node d.root).span.isSome = true := by
  obtain ⟨element, outline, -, houtline, rfl, -⟩ := exists_outline_of_read h
  rw [tag, node_root_ofOutline]
  obtain ⟨name, attributes, children, span, outlines, -, -, -, rfl⟩ :=
    Outline.ofRoot_eq_ok houtline
  exact ⟨rfl, rfl⟩

end Document

end Gamebook
