import Gamebook.Markup.Reader
import Gamebook.Proofs.Markup.Marks
import Gamebook.Proofs.Result

/-! # Marks that can be read

The marks of a tree that was read are names without qualifiers and characters that markup may hold
(`sound_of_read`), so that they can be read again once they are written.
-/

namespace Gamebook.Markup

/-- A name that has no qualifier. -/
structure IsLocalName (name : List Char) : Prop where
  start : name.head?.any isNameStart = true
  all : ∀ c ∈ name, isNameChar c = true ∧ c ≠ ':'

/-- A text that holds nothing that is not allowed. -/
def AllAllowed (text : List Char) : Prop :=
  ∀ c ∈ text, isAllowed c = true

theorem AllAllowed.subset {text part : List Char} (h : AllAllowed text) (hpart : part ⊆ text) :
    AllAllowed part :=
  fun c hc => h c (hpart hc)

@[simp]
theorem allAllowed_nil : AllAllowed [] := by
  simp [AllAllowed]

@[simp]
theorem allAllowed_cons_iff {c : Char} {text : List Char} :
    AllAllowed (c :: text) ↔ isAllowed c = true ∧ AllAllowed text :=
  List.forall_mem_cons

instance (name : List Char) : Decidable (IsLocalName name) :=
  decidable_of_iff (name.head?.any isNameStart = true ∧
      name.all (fun c => isNameChar c && c != ':') = true) (by
    rw [List.all_eq_true]
    simp only [Bool.and_eq_true, bne_iff_ne]
    exact ⟨fun h => ⟨h.1, h.2⟩, fun h => ⟨h.start, h.all⟩⟩)

instance (text : List Char) : Decidable (AllAllowed text) :=
  decidable_of_iff (text.all isAllowed = true) List.all_eq_true

/-- A bracket with local names, of which none is taken for a declaration, and allowed values. -/
def Bracket.Sound : Bracket → Prop
  | .opening name attributes =>
    IsLocalName name.toList ∧ ∀ pair ∈ attributes,
      IsLocalName pair.1.toList ∧ pair.1 ≠ "xmlns" ∧ AllAllowed pair.2.toList
  | .closing name => IsLocalName name.toList

/-- A mark that can be read once it is written. -/
def Mark.Sound : Mark → Prop
  | .bracket b => b.Sound
  | .char c => isAllowed c = true

/-- A node all of whose marks can be read. -/
def Node.Sound (node : Node) : Prop :=
  ∀ mark ∈ node.marks, mark.Sound

theorem Node.sound_text_iff {content : String} {span : Span} :
    (Node.text content span).Sound ↔ AllAllowed content.toList := by
  simp [Node.Sound, Node.marks, Mark.Sound, AllAllowed]

theorem Node.sound_element_iff {name : String} {attributes : List (String × String)}
    {children : List Node} {span : Span} :
    (Node.element name attributes children span).Sound ↔
      (Bracket.opening name attributes).Sound ∧ ∀ child ∈ children, child.Sound := by
  simp only [Node.Sound, Node.marks, List.forall_mem_cons, List.forall_mem_append, mem_marksAll]
  constructor
  · rintro ⟨hopening, hchildren, -⟩
    exact ⟨hopening, fun child hchild mark hmark => hchildren mark ⟨child, hchild, hmark⟩⟩
  · rintro ⟨hopening, hchildren⟩
    refine ⟨hopening, ?_, hopening.1, by simp⟩
    rintro mark ⟨child, hchild, hmark⟩
    exact hchildren child hchild mark hmark

/-! ## Pieces of an allowed text -/

/-- An attribute with a local name and an allowed value. -/
structure RawAttribute.Sound (raw : RawAttribute) : Prop where
  name : IsLocalName raw.name.name
  value : AllAllowed raw.value

/-- A piece with local names and nothing that is not allowed. -/
def Piece.Sound : Piece → Prop
  | .openTag name attributes => IsLocalName name.name ∧ ∀ raw ∈ attributes, raw.Sound
  | .emptyTag name attributes => IsLocalName name.name ∧ ∀ raw ∈ attributes, raw.Sound
  | .closeTag name => IsLocalName name.name
  | .text raw => AllAllowed raw
  | .data raw => AllAllowed raw
  | .aside => True

section Pieces

variable {text after : List Char}

theorem QualifiedName.isLocalName_of_ofWord? {word : List Char} {name : QualifiedName}
    (h : ofWord? word = some name) (hword : ∀ c ∈ word, isNameChar c = true) :
    IsLocalName name.name := by
  unfold ofWord? at h
  obtain ⟨hfound, hstart⟩ := Option.filter_eq_some_iff.1 h
  obtain ⟨-, hstart⟩ := Bool.and_eq_true_iff.1 hstart
  refine ⟨hstart, ?_⟩
  split at hfound
  next =>
    cases hfound
    intro c hc
    refine ⟨hword c ((List.takeWhile_sublist _).subset hc), ?_⟩
    simpa using List.mem_takeWhile_imp hc
  next colon rest hrest =>
    split at hfound
    · cases hfound
    next hcolon =>
      cases hfound
      intro c hc
      have hmem : c ∈ word.dropWhile (· != ':') := hrest ▸ List.mem_cons_of_mem _ hc
      refine ⟨hword c ((List.dropWhile_sublist _).subset hmem), ?_⟩
      rintro rfl
      exact hcolon (by simpa using hc)

theorem sound_of_qualifiedName? {name : QualifiedName}
    (h : qualifiedName? text = some (name, after)) :
    IsLocalName name.name ∧ after ⊆ text := by
  obtain ⟨found, hfound, heq⟩ := Option.map_eq_some_iff.1 h
  cases heq
  exact ⟨QualifiedName.isLocalName_of_ofWord? hfound fun c hc => List.mem_takeWhile_imp hc,
    (List.dropWhile_sublist _).subset⟩

theorem subset_of_quotedValue? {value : List Char}
    (h : quotedValue? text = some (value, after)) : value ⊆ text ∧ after ⊆ text := by
  unfold quotedValue? at h
  split at h
  · cases h
  next quote rest =>
    split at h
    · split at h
      next c tail hdrop =>
        split at h
        · cases h
          have htail : c :: after ⊆ rest := hdrop ▸ (List.dropWhile_sublist _).subset
          exact ⟨List.subset_cons_of_subset _ (List.takeWhile_sublist _).subset,
            List.subset_cons_of_subset _ (List.subset_of_cons_subset htail)⟩
        · cases h
      · cases h
    · cases h

theorem sound_of_attribute? {read : RawAttribute} (h : attribute? text = some (read, after))
    (htext : AllAllowed text) : read.Sound ∧ after ⊆ text := by
  unfold attribute? at h
  split at h
  · cases h
  next name afterName hname =>
    obtain ⟨hlocal, hafterName⟩ := sound_of_qualifiedName? hname
    split at h
    next afterSign hsign =>
      have hafterSign : afterSign ⊆ text := by
        refine List.Subset.trans ?_ hafterName
        have hdrop := (List.dropWhile_sublist isSpace (l := afterName)).subset
        rw [hsign] at hdrop
        exact List.subset_of_cons_subset hdrop
      split at h
      next value rest hvalue =>
        cases h
        obtain ⟨hin, hout⟩ := subset_of_quotedValue? hvalue
        have hspace := List.Subset.trans (List.dropWhile_sublist isSpace).subset hafterSign
        exact ⟨⟨hlocal, htext.subset (List.Subset.trans hin hspace)⟩, List.Subset.trans hout hspace⟩
      · cases h
    · cases h

theorem sound_of_attributes? {attributes : List RawAttribute} {isEmpty : Bool}
    (h : attributes? text = some (attributes, isEmpty, after)) (htext : AllAllowed text) :
    (∀ raw ∈ attributes, raw.Sound) ∧ after ⊆ text := by
  have hspace (text : List Char) := (List.dropWhile_sublist isSpace (l := text)).subset
  fun_induction attributes? text generalizing attributes with
  | case1 text rest heq =>
      cases h
      exact ⟨by simp, List.subset_of_cons_subset (heq ▸ hspace text)⟩
  | case2 text rest heq =>
      cases h
      exact ⟨by simp, List.subset_of_cons_subset (List.subset_of_cons_subset (heq ▸ hspace text))⟩
  | case3 text _ first rest hfirst _ _ ih =>
      obtain ⟨⟨others, empty, last⟩, hothers, heq⟩ := Option.map_eq_some_iff.1 h
      cases heq
      obtain ⟨hsound, hrest⟩ := sound_of_attribute? hfirst (htext.subset (hspace text))
      have hsub := List.Subset.trans hrest (hspace text)
      obtain ⟨hall, hafter⟩ := ih hothers (htext.subset hsub)
      exact ⟨List.forall_mem_cons.2 ⟨hsound, hall⟩, List.Subset.trans hafter hsub⟩
  | case4 => cases h
  | case5 => cases h

theorem sound_of_tag? {found : Piece} (h : tag? text = some (found, after))
    (htext : AllAllowed text) : found.Sound ∧ after ⊆ text := by
  unfold tag? at h
  split at h
  · cases h
  next name rest hname =>
    obtain ⟨⟨attributes, isEmpty, last⟩, hattributes, heq⟩ := Option.map_eq_some_iff.1 h
    cases heq
    obtain ⟨hlocal, hrest⟩ := sound_of_qualifiedName? hname
    obtain ⟨hall, hafter⟩ := sound_of_attributes? hattributes (htext.subset hrest)
    refine ⟨?_, List.Subset.trans hafter hrest⟩
    split <;> exact ⟨hlocal, hall⟩

theorem sound_of_closeTag? {found : Piece} (h : closeTag? text = some (found, after)) :
    found.Sound ∧ after ⊆ text := by
  unfold closeTag? at h
  split at h
  · cases h
  next name rest hname =>
    obtain ⟨hlocal, hrest⟩ := sound_of_qualifiedName? hname
    split at h
    next tail htail =>
      cases h
      have hdrop := (List.dropWhile_sublist isSpace (l := rest)).subset
      rw [htail] at hdrop
      exact ⟨hlocal, List.Subset.trans (List.subset_of_cons_subset hdrop) hrest⟩
    · cases h

theorem subset_of_splitText {stop before : List Char}
    (h : Text.splitText stop text = some (before, after)) : before ⊆ text ∧ after ⊆ text := by
  rw [Text.eq_append_of_splitText h]
  exact ⟨by simp, by simp⟩

theorem sound_of_comment? {found : Piece} (h : comment? text = some (found, after)) :
    found.Sound ∧ after ⊆ text := by
  unfold comment? at h
  split at h
  · cases h
  next content rest hsplit =>
    split at h
    · cases h
    · cases h
      exact ⟨trivial, (subset_of_splitText hsplit).2⟩

theorem sound_of_data? {found : Piece} (h : data? text = some (found, after))
    (htext : AllAllowed text) : found.Sound ∧ after ⊆ text := by
  obtain ⟨⟨content, last⟩, hsplit, heq⟩ := Option.map_eq_some_iff.1 h
  cases heq
  obtain ⟨hbefore, hafter⟩ := subset_of_splitText hsplit
  exact ⟨htext.subset hbefore, hafter⟩

theorem sound_of_instruction? {found : Piece} (h : instruction? text = some (found, after)) :
    found.Sound ∧ after ⊆ text := by
  unfold instruction? at h
  split at h
  · cases h
  · obtain ⟨⟨content, last⟩, hsplit, heq⟩ := Option.map_eq_some_iff.1 h
    cases heq
    have hafter := (subset_of_splitText hsplit).2
    exact ⟨trivial, List.Subset.trans hafter (List.dropWhile_sublist _).subset⟩

/-- A piece of an allowed text is sound, and so is what follows it. -/
theorem sound_of_piece {c : Char} {rest : List Char} {found : Piece}
    (h : piece c rest = .ok (found, after)) (htext : AllAllowed (c :: rest)) :
    found.Sound ∧ AllAllowed after := by
  have hrest : AllAllowed rest := htext.subset (List.subset_cons_self c rest)
  unfold piece at h
  split at h
  · split at h
    next tail =>
      obtain ⟨hfound, hafter⟩ := sound_of_comment? (eq_some_of_orFail h)
      exact ⟨hfound, hrest.subset (List.Subset.trans hafter fun d hd => by simp [hd])⟩
    next tail =>
      have htail : tail ⊆ _ :=
        List.subset_append_right ['!', '[', 'C', 'D', 'A', 'T', 'A', '['] tail
      obtain ⟨hfound, hafter⟩ := sound_of_data? (eq_some_of_orFail h) (hrest.subset htail)
      exact ⟨hfound, hrest.subset (List.Subset.trans hafter htail)⟩
    · cases h
    next tail =>
      obtain ⟨hfound, hafter⟩ := sound_of_instruction? (eq_some_of_orFail h)
      exact ⟨hfound, hrest.subset (List.Subset.trans hafter fun d hd => by simp [hd])⟩
    next tail =>
      obtain ⟨hfound, hafter⟩ := sound_of_closeTag? (eq_some_of_orFail h)
      exact ⟨hfound, hrest.subset (List.Subset.trans hafter fun d hd => by simp [hd])⟩
    next =>
      obtain ⟨hfound, hafter⟩ := sound_of_tag? (eq_some_of_orFail h) hrest
      exact ⟨hfound, hrest.subset hafter⟩
  · dsimp only at h
    split at h
    · cases h
    · cases h
      exact ⟨htext.subset (List.cons_subset_cons c (List.takeWhile_sublist _).subset),
        hrest.subset (List.dropWhile_sublist _).subset⟩

theorem sound_of_pieces {position : Position} {placed : List Placed}
    (h : pieces position text = .ok placed) (htext : AllAllowed text) :
    ∀ found ∈ placed, found.piece.Sound := by
  fun_induction pieces position text generalizing placed with
  | case1 =>
      cases h
      simp
  | case2 => cases h
  | case3 position c rest found after hpiece next =>
      rename_i ih
      obtain ⟨others, hothers, heq⟩ := Except.map_eq_ok_iff.1 h
      obtain ⟨hfound, hafter⟩ := sound_of_piece hpiece htext
      rw [← heq]
      exact List.forall_mem_cons.2 ⟨hfound, ih hothers hafter⟩

end Pieces

/-! ## References and line ends -/

/-- The character that a unit is or stands for. -/
def TextUnit.char : TextUnit → Char
  | .literal c => c
  | .reference c => c

theorem isAllowed_of_charOfCode? {code : Nat} {c : Char} (h : charOfCode? code = some c) :
    isAllowed c = true := by
  unfold charOfCode? at h
  obtain ⟨hcode, heq⟩ := Option.ite_none_right_eq_some.1 h
  cases heq
  exact (Bool.and_eq_true_iff.1 hcode).2

theorem isAllowed_of_namedChar? {inside : List Char} {c : Char}
    (h : namedChar? inside = some c) : isAllowed c = true := by
  unfold namedChar? at h
  split at h
  · cases h; decide
  · cases h; decide
  · cases h; decide
  · cases h; decide
  · cases h; decide
  · split at h
    · cases h
    · obtain ⟨code, -, hcode⟩ := Option.bind_eq_some_iff.1 h
      exact isAllowed_of_charOfCode? hcode
  · split at h
    · cases h
    · exact isAllowed_of_charOfCode? h
  · cases h

theorem isAllowed_of_units? {raw : List Char} {units : List TextUnit}
    (h : units? raw = some units) (hraw : AllAllowed raw) :
    ∀ unit ∈ units, isAllowed unit.char = true := by
  fun_induction units? raw generalizing units with
  | case1 =>
      cases h
      simp
  | case2 rest colon after hafter named hnamed ih =>
      obtain ⟨others, hothers, rfl⟩ := Option.map_eq_some_iff.1 h
      have hsub : after ⊆ rest := by
        have hdrop := (List.dropWhile_sublist (· != ';') (l := rest)).subset
        rw [hafter] at hdrop
        exact List.subset_of_cons_subset hdrop
      exact List.forall_mem_cons.2 ⟨isAllowed_of_namedChar? hnamed,
        ih hothers (hraw.subset (List.subset_cons_of_subset _ hsub))⟩
  | case3 => cases h
  | case4 => cases h
  | case5 c rest hne ih =>
      obtain ⟨others, hothers, rfl⟩ := Option.map_eq_some_iff.1 h
      exact List.forall_mem_cons.2 ⟨hraw c List.mem_cons_self,
        ih hothers (hraw.subset (List.subset_cons_self c rest))⟩

theorem allAllowed_attributeChars {units : List TextUnit}
    (h : ∀ unit ∈ units, isAllowed unit.char = true) : AllAllowed (attributeChars units) := by
  fun_induction attributeChars units with
  | case1 rest ih =>
      obtain ⟨-, -, hrest⟩ := by simpa using h
      exact allAllowed_cons_iff.2 ⟨by decide, ih hrest⟩
  | case2 rest c hcrlf ih =>
      obtain ⟨hc, hrest⟩ := List.forall_mem_cons.1 h
      refine allAllowed_cons_iff.2 ⟨?_, ih hrest⟩
      split
      · decide
      · exact hc
  | case3 c rest ih =>
      obtain ⟨hc, hrest⟩ := List.forall_mem_cons.1 h
      exact allAllowed_cons_iff.2 ⟨hc, ih hrest⟩
  | case4 => exact allAllowed_nil

theorem allAllowed_readLiteral {read : List Char} {c : Char} (hread : AllAllowed read)
    (hc : isAllowed c = true) (isLast : Bool) : AllAllowed (readLiteral read c isLast) := by
  have hfeed : isAllowed '\n' = true := by decide
  have hcurrent : isAllowed (if isLast = true ∧ c = '\r' then '\n' else c) = true := by
    split
    · exact hfeed
    · exact hc
  unfold readLiteral
  dsimp only
  generalize (if isLast = true ∧ c = '\r' then '\n' else c) = current at hcurrent
  split
  next before =>
    have hbefore := (allAllowed_cons_iff.1 hread).2
    split
    · exact allAllowed_cons_iff.2 ⟨hfeed, hbefore⟩
    · exact allAllowed_cons_iff.2 ⟨hcurrent, allAllowed_cons_iff.2 ⟨hfeed, hbefore⟩⟩
  next => exact allAllowed_cons_iff.2 ⟨hcurrent, hread⟩

theorem allAllowed_textChars {read : List Char} {units : List TextUnit} (hread : AllAllowed read)
    (h : ∀ unit ∈ units, isAllowed unit.char = true) (afterReference : Bool) :
    AllAllowed (textChars read afterReference units) := by
  induction units generalizing read afterReference with
  | nil =>
      intro c hc
      exact hread c (List.mem_reverse.1 hc)
  | cons first rest ih =>
      obtain ⟨hfirst, hrest⟩ := List.forall_mem_cons.1 h
      cases first with
      | reference c => exact ih (allAllowed_cons_iff.2 ⟨hfirst, hread⟩) hrest true
      | literal c =>
          rw [textChars]
          split
          · exact ih (allAllowed_cons_iff.2 ⟨hfirst, hread⟩) hrest false
          · exact ih (allAllowed_readLiteral hread hfirst _) hrest false

theorem allAllowed_of_textContent? {raw : List Char} {content : String}
    (h : textContent? raw = some content) (hraw : AllAllowed raw) : AllAllowed content.toList := by
  obtain ⟨units, hunits, rfl⟩ := Option.map_eq_some_iff.1 h
  rw [String.toList_ofList]
  exact allAllowed_textChars allAllowed_nil (isAllowed_of_units? hunits hraw) false

theorem allAllowed_sectionContent {raw : List Char} (hraw : AllAllowed raw) :
    AllAllowed (sectionContent raw).toList := by
  rw [sectionContent, String.toList_ofList]
  refine allAllowed_textChars allAllowed_nil ?_ false
  rw [List.forall_mem_map]
  exact hraw

/-! ## Attributes -/

theorem sound_of_resolve {raw : RawAttribute} {found : Attribute} (h : raw.resolve = .ok found)
    (hraw : raw.Sound) : IsLocalName found.name.toList ∧ AllAllowed found.value.toList := by
  unfold RawAttribute.resolve at h
  split at h
  next value hvalue =>
    cases h
    obtain ⟨units, hunits, rfl⟩ := Option.map_eq_some_iff.1 hvalue
    refine ⟨?_, ?_⟩
    · rw [String.toList_ofList]
      exact hraw.name
    · rw [String.toList_ofList]
      exact allAllowed_attributeChars (isAllowed_of_units? hunits hraw.value)
  next => cases h

/-- An attribute that is no declaration is not named as one. -/
theorem Declared.mem_attributes_of_add {declared next : Declared} {found other : Attribute}
    (h : declared.add found = .ok next) (hother : other ∈ next.attributes) :
    other ∈ declared.attributes ∨ other = found ∧ found.name ≠ "xmlns" := by
  unfold add at h
  dsimp only at h
  split at h
  · split at h
    · cases h
    · split at h
      · cases h
      · split at h
        · cases h
        · split at h
          · cases h
            exact Or.inl hother
          · cases h
            exact Or.inl hother
  · split at h
    · split at h
      · cases h
      · cases h
        exact Or.inl hother
    next hname =>
      cases h
      simpa [hname] using hother

theorem Declared.mem_attributes_of_foldlM {declared last : Declared} {items : List Attribute}
    {other : Attribute} (h : items.foldlM add declared = .ok last)
    (hother : other ∈ last.attributes) :
    other ∈ declared.attributes ∨ other ∈ items ∧ other.name ≠ "xmlns" := by
  induction items generalizing declared with
  | nil =>
      cases h
      exact Or.inl hother
  | cons first rest ih =>
      obtain ⟨next, hnext, hrest⟩ := Except.bind_eq_ok_iff.1 h
      rcases ih hrest with hmem | ⟨hmem, hname⟩
      · rcases mem_attributes_of_add hnext hmem with hold | ⟨rfl, hname⟩
        · exact Or.inl hold
        · exact Or.inr ⟨List.mem_cons_self, hname⟩
      · exact Or.inr ⟨List.mem_cons_of_mem _ hmem, hname⟩

theorem sound_of_resolveTag {outer scope : Scope} {name : QualifiedName} {raw : List RawAttribute}
    {attributes : List (String × String)} (h : resolveTag outer name raw = .ok (scope, attributes))
    (hname : IsLocalName name.name) (hraw : ∀ first ∈ raw, first.Sound) :
    (Bracket.opening (String.ofList name.name) attributes).Sound := by
  unfold resolveTag at h
  dsimp only at h
  split at h
  · cases h
  obtain ⟨found, hfound, h⟩ := Except.bind_eq_ok_iff.1 h
  obtain ⟨declared, hdeclared, h⟩ := Except.bind_eq_ok_iff.1 h
  obtain ⟨names, hnames, h⟩ := Except.bind_eq_ok_iff.1 h
  split at h
  · cases h
  split at h
  · cases h
  cases h
  refine ⟨by rwa [String.toList_ofList], ?_⟩
  intro pair hpair
  obtain ⟨other, hother, rfl⟩ := List.mem_map.1 hpair
  rcases Declared.mem_attributes_of_foldlM hdeclared hother with hnone | ⟨hother, hne⟩
  · cases hnone
  · obtain ⟨first, hfirst, hresolve⟩ := Except.exists_of_mem_results_of_mapM hfound hother
    obtain ⟨hlocal, hvalue⟩ := sound_of_resolve hresolve (hraw first hfirst)
    exact ⟨hlocal, hne, hvalue⟩

/-! ## Trees -/

/-- An open element in which everything can be read. -/
structure Open.Sound (element : Open) : Prop where
  bracket : (Bracket.opening (String.ofList element.name.name) element.attributes).Sound
  children : ∀ child ∈ element.children, child.Sound

/-- A state of reading in which everything can be read again. -/
structure Progress.Sound (progress : Progress) : Prop where
  stack : ∀ element ∈ progress.stack, element.Sound
  root : ∀ node ∈ progress.root, node.Sound

variable {progress next : Progress}

theorem sound_of_mem_addText {joins : Bool} {content : String} {span : Span} {children : List Node}
    (hcontent : AllAllowed content.toList) (hchildren : ∀ child ∈ children, child.Sound) :
    ∀ child ∈ addText joins content span children, child.Sound := by
  unfold addText
  split
  next before first rest =>
    obtain ⟨hbefore, hrest⟩ := List.forall_mem_cons.1 hchildren
    split
    · refine List.forall_mem_cons.2 ⟨Node.sound_text_iff.2 ?_, hrest⟩
      rw [String.toList_append]
      intro c hc
      rcases List.mem_append.1 hc with hc | hc
      · exact Node.sound_text_iff.1 hbefore c hc
      · exact hcontent c hc
    · exact List.forall_mem_cons.2 ⟨Node.sound_text_iff.2 hcontent, hchildren⟩
  next => exact List.forall_mem_cons.2 ⟨Node.sound_text_iff.2 hcontent, hchildren⟩

theorem Progress.Sound.text {content : String} {span : Span} (h : progress.Sound)
    (hcontent : AllAllowed content.toList) (hnext : progress.text content span = .ok next) :
    next.Sound := by
  unfold Progress.text at hnext
  split at hnext
  · cases hnext
  next top rest hstack =>
    cases hnext
    obtain ⟨htop, hrest⟩ := List.forall_mem_cons.1 (hstack ▸ h.stack)
    exact ⟨List.forall_mem_cons.2
      ⟨⟨htop.bracket, sound_of_mem_addText hcontent htop.children⟩, hrest⟩, h.root⟩

theorem Progress.Sound.close {stack : List Open} {node : Node} (h : progress.Sound)
    (hstack : ∀ element ∈ stack, element.Sound) (hnode : node.Sound) :
    (progress.close stack node).Sound := by
  unfold Progress.close
  split
  · exact ⟨by simp, by simpa using hnode⟩
  next top rest =>
    obtain ⟨htop, hrest⟩ := List.forall_mem_cons.1 hstack
    exact ⟨List.forall_mem_cons.2
      ⟨⟨htop.bracket, List.forall_mem_cons.2 ⟨hnode, htop.children⟩⟩, hrest⟩, h.root⟩

/-- One more piece adds nothing that cannot be read again. -/
theorem Progress.Sound.step {placed : Placed} (h : progress.Sound) (hpiece : placed.piece.Sound)
    (hnext : progress.step placed = .ok next) : next.Sound := by
  unfold Progress.step at hnext
  split at hnext
  next =>
    cases hnext
    exact ⟨h.stack, h.root⟩
  next raw hraw =>
    rw [hraw] at hpiece
    split at hnext
    · cases hnext
      exact h
    · split at hnext
      next content hcontent => exact h.text (allAllowed_of_textContent? hcontent hpiece) hnext
      · cases hnext
  next raw hraw =>
    rw [hraw] at hpiece
    exact h.text (allAllowed_sectionContent hpiece) hnext
  next name raw hraw =>
    rw [hraw] at hpiece
    obtain ⟨-, -, hnext⟩ := Except.bind_eq_ok_iff.1 hnext
    obtain ⟨⟨scope, attributes⟩, hresolve, hnext⟩ := Except.bind_eq_ok_iff.1 hnext
    cases hnext
    exact ⟨List.forall_mem_cons.2
      ⟨⟨sound_of_resolveTag hresolve hpiece.1 hpiece.2, by simp⟩, h.stack⟩, h.root⟩
  next name raw hraw =>
    rw [hraw] at hpiece
    obtain ⟨-, -, hnext⟩ := Except.bind_eq_ok_iff.1 hnext
    obtain ⟨⟨scope, attributes⟩, hresolve, hnext⟩ := Except.bind_eq_ok_iff.1 hnext
    cases hnext
    exact h.close h.stack (Node.sound_element_iff.2
      ⟨sound_of_resolveTag hresolve hpiece.1 hpiece.2, by simp⟩)
  next name hname =>
    split at hnext
    · cases hnext
    next top rest hstack =>
      obtain ⟨htop, hrest⟩ := List.forall_mem_cons.1 (hstack ▸ h.stack)
      split at hnext
      next hsame =>
        cases hnext
        refine h.close hrest (Node.sound_element_iff.2 ⟨hsame ▸ htop.bracket, ?_⟩)
        intro child hchild
        exact htop.children child (List.mem_reverse.1 hchild)
      · cases hnext

theorem Progress.Sound.foldlM {placed : List Placed} (h : progress.Sound)
    (hpieces : ∀ found ∈ placed, found.piece.Sound)
    (hnext : placed.foldlM Progress.step progress = .ok next) : next.Sound := by
  induction placed generalizing progress with
  | nil =>
      cases hnext
      exact h
  | cons first rest ih =>
      obtain ⟨hfirst, hrest⟩ := List.forall_mem_cons.1 hpieces
      obtain ⟨middle, hmiddle, hnext⟩ := Except.bind_eq_ok_iff.1 hnext
      exact ih (h.step hfirst hmiddle) hrest hnext

/-! ## Texts -/

section Declaration

variable {text after : List Char}

theorem allAllowed_of_declarationPart? {word : String}
    (h : declarationPart? word text = some after) (htext : AllAllowed text) : AllAllowed after := by
  obtain ⟨-, h⟩ := Option.ite_none_right_eq_some.1 h
  obtain ⟨⟨read, rest⟩, hread, rfl⟩ := Option.map_eq_some_iff.1 h
  exact htext.subset (sound_of_attribute? hread htext).2

theorem allAllowed_of_declarationSpace? (h : declarationSpace? text = some after)
    (htext : AllAllowed text) : AllAllowed after := by
  obtain ⟨-, heq⟩ := Option.ite_none_right_eq_some.1 h
  cases heq
  exact htext.subset (List.dropWhile_sublist _).subset

/-- A part of a declaration may be left out. -/
theorem exists_of_optional {present : Bool} {part : Option (List Char)}
    {next : List Char → Option (List Char)}
    (h : (if present = true then part.bind next else (some text).bind next) = some after)
    (htext : AllAllowed text) (hpart : ∀ rest, part = some rest → AllAllowed rest) :
    ∃ rest, AllAllowed rest ∧ next rest = some after := by
  split at h
  · obtain ⟨rest, hrest, hnext⟩ := Option.bind_eq_some_iff.1 h
    exact ⟨rest, hpart rest hrest, hnext⟩
  · exact ⟨text, htext, h⟩

theorem allAllowed_of_afterDeclaration? (h : afterDeclaration? text = some after)
    (htext : AllAllowed text) : AllAllowed after := by
  unfold afterDeclaration? at h
  obtain ⟨start, hstart, h⟩ := Option.bind_eq_some_iff.1 h
  obtain ⟨version, hversion, h⟩ := Option.bind_eq_some_iff.1 h
  obtain ⟨afterVersion, hafterVersion, h⟩ := Option.bind_eq_some_iff.1 h
  have hversionAll := allAllowed_of_declarationSpace? hafterVersion
    (allAllowed_of_declarationPart? hversion (allAllowed_of_declarationSpace? hstart htext))
  have hencoding : ∀ rest, (declarationPart? "encoding" afterVersion).bind declarationSpace? =
      some rest → AllAllowed rest := by
    intro rest hrest
    obtain ⟨encoding, hencoding, hspace⟩ := Option.bind_eq_some_iff.1 hrest
    exact allAllowed_of_declarationSpace? hspace
      (allAllowed_of_declarationPart? hencoding hversionAll)
  simp only [bind, ← Option.bind_assoc] at h
  obtain ⟨afterEncoding, hencodingAll, h⟩ := exists_of_optional h hversionAll hencoding
  obtain ⟨afterStandalone, hstandaloneAll, h⟩ := exists_of_optional h hencodingAll
    fun rest hrest => allAllowed_of_declarationPart? hrest hencodingAll
  have hdrop := hstandaloneAll.subset (List.dropWhile_sublist isSpace).subset
  split at h
  next tail htail =>
    cases h
    rw [htail] at hdrop
    exact (allAllowed_cons_iff.1 (allAllowed_cons_iff.1 hdrop).2).2
  · cases h

end Declaration

theorem allAllowed_of_body? {text body : List Char} (h : body? text = .ok body)
    (htext : AllAllowed text) : AllAllowed body := by
  unfold body? at h
  split at h
  · exact allAllowed_of_afterDeclaration? (eq_some_of_orFail h)
      (htext.subset (List.drop_sublist _ _).subset)
  · cases h
    exact htext

theorem afterMark_subset (text : List Char) : afterMark text ⊆ text := by
  unfold afterMark
  split
  · split
    · exact List.subset_cons_self _ _
    · exact List.Subset.refl _
  · exact List.Subset.refl _

theorem allAllowed_iff {text : List Char} :
    AllAllowed text ↔ (text.find? fun c => !isAllowed c) = none := by
  simp [AllAllowed]

/-- A text is read piece by piece, if it holds nothing that is not allowed. -/
theorem read_eq_ok_iff {text : List Char} {root : Node} :
    read text = .ok root ↔ AllAllowed text ∧ ∃ body placed progress,
      body? (afterMark text) = .ok body ∧
      pieces (.after .first (text.take (text.length - body.length))) body = .ok placed ∧
      placed.foldlM Progress.step ⟨[], none, false⟩ = .ok progress ∧
      progress.finish = .ok root := by
  rw [allAllowed_iff]
  unfold read
  dsimp only
  cases hfind : text.find? fun c => !isAllowed c with
  | some c =>
      refine iff_of_false ?_ (by simp)
      intro h
      cases h
  | none =>
      simp only [true_and]
      constructor
      · intro h
        obtain ⟨body, hbody, h⟩ := Except.bind_eq_ok_iff.1 h
        obtain ⟨placed, hplaced, h⟩ := Except.bind_eq_ok_iff.1 h
        obtain ⟨progress, hprogress, h⟩ := Except.bind_eq_ok_iff.1 h
        exact ⟨body, placed, progress, hbody, hplaced, hprogress, h⟩
      · rintro ⟨body, placed, progress, hbody, hplaced, hprogress, h⟩
        apply Except.bind_eq_ok_iff.2
        refine ⟨body, hbody, Except.bind_eq_ok_iff.2 ⟨placed, hplaced, ?_⟩⟩
        exact Except.bind_eq_ok_iff.2 ⟨progress, hprogress, h⟩

/-- The marks of a tree that was read can be read again. -/
theorem sound_of_read {text : List Char} {root : Node} (h : read text = .ok root) : root.Sound := by
  obtain ⟨htext, body, placed, progress, hbody, hplaced, hprogress, hroot⟩ := read_eq_ok_iff.1 h
  have hstart : Progress.Sound ⟨[], none, false⟩ := ⟨by simp, by simp⟩
  have hpieces := sound_of_pieces hplaced
    (allAllowed_of_body? hbody (htext.subset (afterMark_subset text)))
  have hlast := hstart.foldlM hpieces hprogress
  unfold Progress.finish at hroot
  split at hroot
  next node _ hnode =>
    cases hroot
    exact hlast.root _ hnode
  · cases hroot
  · cases hroot

end Gamebook.Markup
