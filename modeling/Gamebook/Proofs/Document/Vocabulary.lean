import Gamebook.Proofs.Document.Representation

/-! # Which markup is a quest

Markup is a quest if its root is named so, if only known elements stand where elements can stand,
and if no id stands for two nodes. `read_of_markup` says that nothing else is asked for, and which
mistake is reported of several: one of the root before any other, then the first element that may
not stand where it stands, and only then the first id that was used before.
-/

namespace Gamebook

/-! ## The names of elements -/

namespace Tag

/-- The names of the elements that hold text. What looks like an element within them is text too. -/
def leafNames : List String := ["p", "text", "instruction", "e", "trigger"]

/-- The names of the elements that may stand within a quest. -/
def innerNames : List String := ["roleplay", "combat", "choice", "event"] ++ leafNames

/-- An element is told by its name in small letters: it is the whole quest, or one that may stand
within a quest and then a leaf or not, or none that is known. -/
theorem ofElement?_cases (name : String) :
    (Text.lowercaseAscii name = "quest" ∧ ofElement? name = some .quest) ∨
    (Text.lowercaseAscii name ∈ innerNames ∧
      ∃ tag, ofElement? name = some tag ∧ tag ≠ .quest ∧
        (tag.isLeaf = true ↔ Text.lowercaseAscii name ∈ leafNames)) ∨
    (Text.lowercaseAscii name ≠ "quest" ∧ Text.lowercaseAscii name ∉ innerNames ∧
      ofElement? name = none) := by
  unfold ofElement?
  split
  case h_1 h => exact Or.inl ⟨h, rfl⟩
  case h_11 hquest hroleplay hcombat htrigger hchoice hevent henemy hinstruction hp htext =>
    refine Or.inr (Or.inr ⟨hquest, ?_, rfl⟩)
    simp only [innerNames, leafNames, List.mem_append, List.mem_cons, List.not_mem_nil, or_false,
      not_or]
    exact ⟨⟨hroleplay, hcombat, hchoice, hevent⟩, hp, htext, hinstruction, henemy, htrigger⟩
  all_goals
    next h =>
      refine Or.inr (Or.inl ?_)
      rw [h]
      exact ⟨by decide, _, rfl, by decide, by decide⟩

theorem ofElement?_eq_quest_iff {name : String} :
    ofElement? name = some .quest ↔ Text.lowercaseAscii name = "quest" := by
  rcases ofElement?_cases name with ⟨hname, htag⟩ | ⟨hname, tag, htag, hquest, -⟩ |
    ⟨hname, -, htag⟩
  · simp [hname, htag]
  · have hne : Text.lowercaseAscii name ≠ "quest" := by
      intro heq
      rw [heq] at hname
      revert hname
      decide
    simp [hne, htag, hquest]
  · simp [hname, htag]

end Tag

/-! ## The elements of markup -/

namespace Markup

/-- The name of an element in small letters. A text has no name. -/
def Node.name? : Node → Option String
  | .element name .. => some (Text.lowercaseAscii name)
  | .text .. => none

mutual

/-- The elements of a piece of markup in the order of their opening tags, each with the names of the
elements around it. -/
def Node.elements (around : List String) : Node → List (List String × Node)
  | .text .. => []
  | .element name attributes children span =>
    (around, .element name attributes children span) ::
      elementsAll (Text.lowercaseAscii name :: around) children

/-- The elements of several pieces of markup. -/
def elementsAll (around : List String) : List Node → List (List String × Node)
  | [] => []
  | first :: rest => first.elements around ++ elementsAll around rest

end

/-- Of elements with the names around them, those that stand within no leaf. -/
def outsideLeaves (elements : List (List String × Node)) : List Node :=
  (elements.filter fun element => element.1.all fun name => name ∉ Tag.leafNames).map Prod.snd

/-- The elements within a root that stand within no leaf, in the order of their opening tags. -/
def Node.inner (root : Node) : List Node :=
  outsideLeaves (root.elements []).tail

/-- Whether an element may not stand within a quest. -/
def Node.offends (element : Node) : Bool :=
  element.name?.all fun name => name ∉ Tag.innerNames

/-- The code for an element that may not stand within a quest. -/
def Node.offence (element : Node) : String :=
  if element.name? = some "quest" then "XML_NESTED_QUEST" else "XML_UNKNOWN_TAG"

/-- The nodes that markup makes, in the order of their opening tags. -/
def Node.nodes (root : Node) : List Gamebook.Node :=
  root.makers.filterMap Node.made?

theorem outsideLeaves_append (xs ys : List (List String × Node)) :
    outsideLeaves (xs ++ ys) = outsideLeaves xs ++ outsideLeaves ys := by
  rw [outsideLeaves, List.filter_append, List.map_append]
  rfl

mutual

theorem subset_of_mem_elements (around : List String) :
    (piece : Node) → ∀ element ∈ piece.elements around, around ⊆ element.1
  | .text .., element, hmem => by
    rw [Node.elements] at hmem
    cases hmem
  | .element name attributes children span, element, hmem => by
    rw [Node.elements, List.mem_cons] at hmem
    rcases hmem with rfl | hmem
    · exact List.Subset.refl around
    · exact List.Subset.trans (List.subset_cons_self _ around)
        (subset_of_mem_elementsAll (Text.lowercaseAscii name :: around) children element hmem)

/-- What stands around pieces of markup stands around all elements in them. -/
theorem subset_of_mem_elementsAll (around : List String) :
    (pieces : List Node) → ∀ element ∈ elementsAll around pieces, around ⊆ element.1
  | [], element, hmem => by
    rw [elementsAll] at hmem
    cases hmem
  | first :: rest, element, hmem => by
    rw [elementsAll, List.mem_append] at hmem
    rcases hmem with hmem | hmem
    · exact subset_of_mem_elements around first element hmem
    · exact subset_of_mem_elementsAll around rest element hmem

end

theorem outsideLeaves_elementsAll_of_mem {around : List String} {name : String}
    (hname : name ∈ around) (hleaf : name ∈ Tag.leafNames) (pieces : List Node) :
    outsideLeaves (elementsAll around pieces) = [] := by
  rw [outsideLeaves, List.map_eq_nil_iff, List.filter_eq_nil_iff]
  intro element hmem hall
  have hnot := List.all_eq_true.1 hall name
    (subset_of_mem_elementsAll around pieces element hmem hname)
  exact of_decide_eq_true hnot hleaf

/-- An element stands outside of all leaves if no leaf stands around it, and then so do the elements
within it that do, unless it is a leaf itself. -/
theorem outsideLeaves_elements {around : List String}
    (houter : ∀ name ∈ around, name ∉ Tag.leafNames) (name : String)
    (attributes : List (String × String)) (children : List Node) (span : Span) :
    outsideLeaves ((Node.element name attributes children span).elements around) =
      .element name attributes children span ::
        if Text.lowercaseAscii name ∈ Tag.leafNames then []
        else outsideLeaves (elementsAll (Text.lowercaseAscii name :: around) children) := by
  have hall : (around.all fun name => name ∉ Tag.leafNames) = true :=
    List.all_eq_true.2 fun outer hmem => decide_eq_true (houter outer hmem)
  rw [Node.elements, outsideLeaves, List.filter_cons, if_pos hall, List.map_cons]
  change _ :: outsideLeaves _ = _
  split
  next hleaf => rw [outsideLeaves_elementsAll_of_mem List.mem_cons_self hleaf]
  · rfl

end Markup

/-! ## The first mistake -/

/-- A result is a failure with the given code that belongs to the given place. -/
def FailsAt {α : Type} (result : Except Fault α) (code : String) (span : Option Span) : Prop :=
  ∃ fault, result = .error fault ∧ fault.code = code ∧ fault.span = span

theorem FailsAt.bind {α β : Type} {result : Except Fault α} {code : String} {span : Option Span}
    (h : FailsAt result code span) (f : α → Except Fault β) :
    FailsAt (result.bind f) code span := by
  obtain ⟨fault, rfl, hat⟩ := h
  exact ⟨fault, rfl, hat⟩

theorem FailsAt.ne_ok {α : Type} {result : Except Fault α} {code : String} {span : Option Span}
    (h : FailsAt result code span) (a : α) : result ≠ .ok a := by
  obtain ⟨fault, rfl, -⟩ := h
  intro heq
  cases heq

namespace Outline

/-- Reading stops at the first offending element, if there is one. -/
def StopsAt {α : Type} (result : Except Fault α) : Option Markup.Node → Prop
  | some element => FailsAt result element.offence (some element.span)
  | none => ∃ a, result = .ok a

/-- What passes failures on, and succeeds if what it goes by does, stops where that stops. -/
theorem StopsAt.lift {α β : Type} {result : Except Fault α} {whole : Except Fault β}
    {first : Option Markup.Node} (h : StopsAt result first)
    (herror : ∀ fault, result = .error fault → whole = .error fault)
    (hok : ∀ a, result = .ok a → ∃ b, whole = .ok b) : StopsAt whole first := by
  cases first with
  | none =>
      obtain ⟨a, ha⟩ := h
      exact hok a ha
  | some element =>
      obtain ⟨fault, hfault, hat⟩ := h
      exact ⟨fault, herror fault hfault, hat⟩

mutual

theorem stopsAt_ofMarkup (parent : Tag) (around : List String)
    (houter : ∀ name ∈ around, name ∉ Tag.leafNames) :
    (piece : Markup.Node) → StopsAt (ofMarkup parent piece)
      ((Markup.outsideLeaves (piece.elements around)).find? Markup.Node.offends)
  | .text content span => by
    rw [ofMarkup, Markup.Node.elements]
    exact ⟨_, rfl⟩
  | .element name attributes children span => by
    rw [Markup.outsideLeaves_elements houter, ofMarkup, List.find?_cons]
    rcases Tag.ofElement?_cases name with ⟨hname, htag⟩ | ⟨hname, tag, htag, hquest, hleaf⟩ |
      ⟨hname, hinner, htag⟩
    · have hoffends : (Markup.Node.element name attributes children span).offends = true := by
        simp [Markup.Node.offends, Markup.Node.name?, hname, Tag.innerNames, Tag.leafNames]
      rw [hoffends, htag]
      refine ⟨_, rfl, ?_, rfl⟩
      simp [Markup.Node.offence, Markup.Node.name?, hname, Fault.code, Cause.code]
    · have hoffends : (Markup.Node.element name attributes children span).offends = false := by
        simp [Markup.Node.offends, Markup.Node.name?, hname]
      rw [hoffends, htag]
      dsimp only
      rw [if_neg hquest]
      by_cases hname' : Text.lowercaseAscii name ∈ Tag.leafNames
      · rw [if_pos hname', if_pos (hleaf.2 hname')]
        exact ⟨_, rfl⟩
      · have hinner := stopsAt_ofMarkups tag (Text.lowercaseAscii name :: around)
          (List.forall_mem_cons.2 ⟨hname', houter⟩) children
        rw [if_neg hname', if_neg fun h => hname' (hleaf.1 h)]
        exact hinner.lift (fun fault hfault => by rw [hfault])
          fun outlines houtlines => ⟨_, by rw [houtlines]⟩
    · have hoffends : (Markup.Node.element name attributes children span).offends = true := by
        simp [Markup.Node.offends, Markup.Node.name?, hinner]
      rw [hoffends, htag]
      refine ⟨_, rfl, ?_, rfl⟩
      simp [Markup.Node.offence, Markup.Node.name?, hname, Fault.code, Cause.code]

/-- Markup within a node is read up to the first offending element outside of its leaves. -/
theorem stopsAt_ofMarkups (parent : Tag) (around : List String)
    (houter : ∀ name ∈ around, name ∉ Tag.leafNames) :
    (pieces : List Markup.Node) → StopsAt (ofMarkups parent pieces)
      ((Markup.outsideLeaves (Markup.elementsAll around pieces)).find? Markup.Node.offends)
  | [] => by
    rw [ofMarkups]
    exact ⟨_, rfl⟩
  | first :: rest => by
    have hfirst := stopsAt_ofMarkup parent around houter first
    have hrest := stopsAt_ofMarkups parent around houter rest
    rw [Markup.elementsAll, Markup.outsideLeaves_append, List.find?_append, ofMarkups]
    revert hfirst
    cases List.find? _ (Markup.outsideLeaves (first.elements around)) with
    | some element =>
        rintro ⟨fault, hfault, hat⟩
        rw [hfault]
        exact ⟨fault, rfl, hat⟩
    | none =>
        rintro ⟨found, hfound⟩
        rw [hfound, Option.none_or]
        exact hrest.lift (fun fault hfault => by rw [hfault])
          fun others hothers => ⟨_, by rw [hothers]⟩

end

/-- A root that is a quest is read up to the first offending element within it. -/
theorem stopsAt_ofRoot {root : Markup.Node} (hquest : root.name? = some "quest") :
    StopsAt (ofRoot root) (root.inner.find? Markup.Node.offends) := by
  cases root with
  | text content span => cases hquest
  | element name attributes children span =>
      have hname : Text.lowercaseAscii name = "quest" := Option.some.inj hquest
      have houter : ∀ outer ∈ [Text.lowercaseAscii name], outer ∉ Tag.leafNames := by
        rw [hname]
        decide
      have hinner := stopsAt_ofMarkups .quest _ houter children
      rw [ofRoot, if_pos (Tag.ofElement?_eq_quest_iff.2 hname), Markup.Node.inner,
        Markup.Node.elements, List.tail_cons]
      exact hinner.lift (fun fault hfault => by rw [hfault])
        fun outlines houtlines => ⟨_, by rw [houtlines]⟩

/-- A root that is no quest is not read any further. -/
theorem failsAt_ofRoot {root : Markup.Node} (hquest : root.name? ≠ some "quest") :
    FailsAt (ofRoot root) "XML_ROOT_NOT_QUEST" (some root.span) := by
  cases root with
  | text content span => exact ⟨_, rfl, rfl, rfl⟩
  | element name attributes children span =>
      have hname : Tag.ofElement? name ≠ some .quest := by
        intro htag
        exact hquest (congrArg some (Tag.ofElement?_eq_quest_iff.1 htag))
      rw [ofRoot, if_neg hname]
      exact ⟨_, rfl, rfl, rfl⟩

end Outline

/-! ## Ids that are used again -/

/-- The first of several nodes whose id was used by a node before it. -/
def IsFirstRepeat (nodes : List Node) (node : Node) : Prop :=
  ∃ before after id, nodes = before ++ node :: after ∧ (before.filterMap Node.id?).Nodup ∧
    node.id? = some id ∧ id ∈ before.filterMap Node.id?

namespace Document

/-- An id is found to be repeated at the first node whose id was seen or used before. -/
theorem exists_of_repeatedId?_eq_some {seen : List String} {nodes : List Node} {id : String}
    {span : Option Span} (h : repeatedId? seen nodes = some (id, span)) :
    ∃ before node after, nodes = before ++ node :: after ∧ repeatedId? seen before = none ∧
      node.id? = some id ∧ node.span = span ∧ (id ∈ seen ∨ id ∈ before.filterMap Node.id?) := by
  induction nodes generalizing seen with
  | nil => cases h
  | cons first rest ih =>
      rw [repeatedId?] at h
      cases hid : first.id? with
      | none =>
          rw [hid] at h
          obtain ⟨before, node, after, rfl, hbefore, hnode, hspan, hused⟩ := ih h
          refine ⟨first :: before, node, after, rfl, ?_, hnode, hspan, ?_⟩
          · rw [repeatedId?, hid]
            exact hbefore
          · rw [List.filterMap_cons_none hid]
            exact hused
      | some firstId =>
          rw [hid] at h
          dsimp only at h
          split at h
          next hseen =>
            cases h
            exact ⟨[], first, rest, rfl, rfl, hid, rfl, Or.inl (List.contains_iff_mem.1 hseen)⟩
          next hnew =>
            obtain ⟨before, node, after, rfl, hbefore, hnode, hspan, hused⟩ := ih h
            refine ⟨first :: before, node, after, rfl, ?_, hnode, hspan, ?_⟩
            · rw [repeatedId?, hid]
              dsimp only
              rw [if_neg hnew]
              exact hbefore
            · -- The id of the first node counts as seen behind it.
              rw [List.filterMap_cons_some hid]
              rcases hused with hused | hused
              · rcases List.mem_cons.1 hused with rfl | hused
                · exact Or.inr List.mem_cons_self
                · exact Or.inl hused
              · exact Or.inr (List.mem_cons_of_mem _ hused)

theorem isFirstRepeat_of_repeatedId? {nodes : List Node} {id : String} {span : Option Span}
    (h : repeatedId? [] nodes = some (id, span)) :
    ∃ node, IsFirstRepeat nodes node ∧ node.id? = some id ∧ node.span = span := by
  obtain ⟨before, node, after, hnodes, hbefore, hnode, hspan, hused⟩ :=
    exists_of_repeatedId?_eq_some h
  refine ⟨node, ⟨before, after, id, hnodes, ?_, hnode, ?_⟩, hnode, hspan⟩
  · exact (repeatedId?_eq_none_iff.1 hbefore).1
  · exact hused.resolve_left List.not_mem_nil

theorem nodes_ofOutline {root : Markup.Node} {outline : Outline}
    (h : Outline.ofRoot root = .ok outline) :
    (ofOutline outline).refs.map (ofOutline outline).node = root.nodes := by
  have hmade := congrArg (List.filterMap id) (Outline.made_of_ofRoot h)
  rw [← placements_ofOutline, placements, List.map_map, List.filterMap_map, List.filterMap_map]
    at hmade
  rw [Markup.Node.nodes, ← List.filterMap_eq_map]
  exact hmade.symm

/-- A document is refused for an id exactly if two of its nodes have it. -/
theorem withDistinctIds_cases (outline : Outline) :
    ((((ofOutline outline).refs.map (ofOutline outline).node).filterMap Node.id?).Nodup ∧
      (ofOutline outline).withDistinctIds = .ok (ofOutline outline)) ∨
    (¬ (((ofOutline outline).refs.map (ofOutline outline).node).filterMap Node.id?).Nodup ∧
      ∃ node, IsFirstRepeat ((ofOutline outline).refs.map (ofOutline outline).node) node ∧
        FailsAt (ofOutline outline).withDistinctIds "DOCUMENT_DUPLICATE_ID" node.span) := by
  unfold withDistinctIds
  rw [descendants_root (inReadingOrder_ofOutline outline)]
  cases hrepeated : repeatedId? [] ((ofOutline outline).refs.map (ofOutline outline).node) with
  | none => exact Or.inl ⟨(repeatedId?_eq_none_iff.1 hrepeated).1, rfl⟩
  | some repeated =>
      obtain ⟨id, span⟩ := repeated
      obtain ⟨node, hfirst, -, rfl⟩ := isFirstRepeat_of_repeatedId? hrepeated
      refine Or.inr ⟨?_, node, hfirst, _, rfl, rfl, rfl⟩
      intro hnodup
      rw [repeatedId?_eq_none_iff.2 ⟨hnodup, fun id _ => List.not_mem_nil⟩] at hrepeated
      cases hrepeated

section Reading

variable {text : String} {root : Markup.Node} (h : Markup.read text.toList = .ok root)

include h

theorem read_eq_bind :
    read text = (Outline.ofRoot root).bind fun outline => (ofOutline outline).withDistinctIds := by
  unfold read
  rw [h]
  rfl

/-- A root of another name is the first thing that is wrong. -/
theorem failsAt_read_of_not_quest (hquest : root.name? ≠ some "quest") :
    FailsAt (read text) "XML_ROOT_NOT_QUEST" (some root.span) := by
  rw [read_eq_bind h]
  exact (Outline.failsAt_ofRoot hquest).bind _

theorem failsAt_read_of_offends (hquest : root.name? = some "quest") {element : Markup.Node}
    (hfirst : root.inner.find? Markup.Node.offends = some element) :
    FailsAt (read text) element.offence (some element.span) := by
  have hstops := Outline.stopsAt_ofRoot hquest
  rw [hfirst] at hstops
  rw [read_eq_bind h]
  exact FailsAt.bind hstops _

/-- If all elements may stand where they stand, only ids are left to be wrong. -/
theorem read_cases_of_known (hquest : root.name? = some "quest")
    (hknown : ∀ element ∈ root.inner, element.offends = false) :
    ((root.nodes.filterMap Node.id?).Nodup ∧
      ∃ d, read text = .ok d ∧ d.refs.map d.node = root.nodes) ∨
    (¬ (root.nodes.filterMap Node.id?).Nodup ∧ ∃ node, IsFirstRepeat root.nodes node ∧
      FailsAt (read text) "DOCUMENT_DUPLICATE_ID" node.span) := by
  have hstops := Outline.stopsAt_ofRoot hquest
  have hnone : root.inner.find? Markup.Node.offends = none :=
    List.find?_eq_none.2 fun element hmem => Bool.eq_false_iff.1 (hknown element hmem)
  rw [hnone] at hstops
  obtain ⟨outline, houtline⟩ := hstops
  have hnodes := nodes_ofOutline houtline
  have hids := withDistinctIds_cases outline
  rw [hnodes] at hids
  rw [read_eq_bind h, houtline]
  exact hids.imp_left fun hok => ⟨hok.1, _, hok.2, hnodes⟩

theorem known_of_read {d : Document} (hd : read text = .ok d) :
    root.name? = some "quest" ∧ ∀ element ∈ root.inner, element.offends = false := by
  have hquest : root.name? = some "quest" := by
    by_contra hne
    exact (failsAt_read_of_not_quest h hne).ne_ok d hd
  refine ⟨hquest, ?_⟩
  cases hfirst : root.inner.find? Markup.Node.offends with
  | none => exact fun element hmem => Bool.eq_false_iff.2 (List.find?_eq_none.1 hfirst element hmem)
  | some element => exact absurd hd ((failsAt_read_of_offends h hquest hfirst).ne_ok d)

end Reading

/-- Text that is well-formed markup is read as a document exactly if its root is a quest, all
elements outside of leaves are known and no quests themselves, and the nodes that it makes have
different ids; these are then the nodes of the document. Otherwise the failure is that of the root,
or else that of the first offending element, or else that of the first node whose id was used
before. -/
theorem read_of_markup {text : String} {root : Markup.Node}
    (h : Markup.read text.toList = .ok root) :
    ((∃ d, read text = .ok d) ↔
      root.name? = some "quest" ∧ (∀ element ∈ root.inner, element.offends = false) ∧
        (root.nodes.filterMap Node.id?).Nodup) ∧
    (∀ d, read text = .ok d → d.refs.map d.node = root.nodes) ∧
    (root.name? ≠ some "quest" → FailsAt (read text) "XML_ROOT_NOT_QUEST" (some root.span)) ∧
    (root.name? = some "quest" → ∀ element, root.inner.find? Markup.Node.offends = some element →
      FailsAt (read text) element.offence (some element.span)) ∧
    (root.name? = some "quest" → (∀ element ∈ root.inner, element.offends = false) →
      ¬ (root.nodes.filterMap Node.id?).Nodup →
      ∃ node, IsFirstRepeat root.nodes node ∧
        FailsAt (read text) "DOCUMENT_DUPLICATE_ID" node.span) := by
  -- A document that was read can only come from the first of the two cases for known elements.
  have haccepted {d : Document} (hd : read text = .ok d) :
      (root.nodes.filterMap Node.id?).Nodup ∧ d.refs.map d.node = root.nodes := by
    obtain ⟨hquest, hknown⟩ := known_of_read h hd
    rcases read_cases_of_known h hquest hknown with
      ⟨hnodup, other, hok, hnodes⟩ | ⟨-, node, -, hfails⟩
    · cases hd.symm.trans hok
      exact ⟨hnodup, hnodes⟩
    · exact absurd hd (hfails.ne_ok d)
  refine ⟨⟨?_, ?_⟩, fun d hd => (haccepted hd).2, failsAt_read_of_not_quest h, ?_, ?_⟩
  · rintro ⟨d, hd⟩
    obtain ⟨hquest, hknown⟩ := known_of_read h hd
    exact ⟨hquest, hknown, (haccepted hd).1⟩
  · rintro ⟨hquest, hknown, hnodup⟩
    rcases read_cases_of_known h hquest hknown with ⟨-, d, hok, -⟩ | ⟨hrepeated, -⟩
    · exact ⟨d, hok⟩
    · exact absurd hnodup hrepeated
  · intro hquest element hfirst
    exact failsAt_read_of_offends h hquest hfirst
  · intro hquest hknown hrepeated
    rcases read_cases_of_known h hquest hknown with ⟨hnodup, -⟩ | ⟨-, hids⟩
    · exact absurd hnodup hrepeated
    · exact hids

/-- A quest with capitals in its names, an unknown element within a paragraph, and an id that is
used within the paragraph, by a card and by a choice in it. -/
def ledger : String :=
  "<Quest id='b'><roleplay ID='a' id='a'><P>an <b id='a'>old</b> page</P>" ++
    "<choice text='turn' id='a'><trigger>end</trigger></choice></roleplay></Quest>"

/-- The ledger is refused for the choice, as what stands in a paragraph is not looked at. -/
theorem read_of_markup_ledger :
    ∃ root, Markup.read ledger.toList = .ok root ∧
      root.inner.map Markup.Node.name? =
        [some "roleplay", some "p", some "choice", some "trigger"] ∧
      root.nodes.map (fun node => (node.tag, node.id?)) =
        [(.quest, some "b"), (.roleplay, some "a"), (.text, none), (.choice, some "a"),
          (.trigger, none)] ∧
      (¬ ∃ d, read ledger = .ok d) ∧
      ∃ node, IsFirstRepeat root.nodes node ∧
        FailsAt (read ledger) "DOCUMENT_DUPLICATE_ID" node.span := by
  have hresult : (Markup.read ledger.toList).toOption.map (fun root =>
      (root.name? == some "quest" && root.inner.all (! ·.offends),
        root.inner.map Markup.Node.name?, root.nodes.map fun node => (node.tag, node.id?))) =
      some (true, [some "roleplay", some "p", some "choice", some "trigger"],
        [(.quest, some "b"), (.roleplay, some "a"), (.text, none), (.choice, some "a"),
          (.trigger, none)]) := by
    decide +kernel
  obtain ⟨root, hroot, hresult⟩ := Option.map_eq_some_iff.1 hresult
  obtain ⟨hname, hresult⟩ := Prod.mk.inj hresult
  rw [Bool.and_eq_true, beq_iff_eq] at hname
  obtain ⟨hinner, hnodes⟩ := Prod.mk.inj hresult
  have hmarkup := Except.toOption_eq_some_iff.1 hroot
  have hrepeated : ¬ (root.nodes.filterMap Node.id?).Nodup := by
    have hids := congrArg (List.filterMap Prod.snd) hnodes
    rw [List.filterMap_map] at hids
    change root.nodes.filterMap Node.id? = _ at hids
    rw [hids]
    decide
  obtain ⟨haccepted, -, -, -, hrefused⟩ := read_of_markup hmarkup
  refine ⟨root, hmarkup, hinner, hnodes, fun hd => hrepeated (haccepted.1 hd).2.2, ?_⟩
  refine hrefused hname.1 ?_ hrepeated
  intro element hmem
  simpa using List.all_eq_true.1 hname.2 element hmem

end Document

end Gamebook
