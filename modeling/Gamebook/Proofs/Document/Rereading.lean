import Gamebook.Proofs.Document.Vocabulary
import Gamebook.Proofs.Markup.Rereading

/-! # Markup put into a fresh gamebook

What the reader is shown of a node is markup again, and can be put into a paragraph of a gamebook of
its own. `readsBack_iff_of_read` says which nodes are found again there with the same markup and
text: those within which no element has two attributes of one name, no attribute has a tab or a line
end, and no carriage return would be taken for the end of a line.
-/

namespace Gamebook

theorem Tag.isLeaf_of_holdsMarkup {tag : Tag} (h : tag.holdsMarkup = true) : tag.isLeaf = true := by
  revert h
  cases tag <;> decide

namespace Markup

/-! ## A fresh gamebook -/

/-- A row of marks within a paragraph on the only card of a gamebook. -/
def framed (marks : List Mark) : List Mark :=
  .bracket (.opening "quest" []) :: .bracket (.opening "roleplay" []) ::
    .bracket (.opening "p" []) :: (marks ++ .bracket (.closing "p") ::
      [.bracket (.closing "roleplay"), .bracket (.closing "quest")])

/-- A gamebook with a paragraph on its only card. -/
def frame (children : List Node) (book card paragraph : Span) : Node :=
  .element "quest" [] [.element "roleplay" [] [.element "p" [] children paragraph] card] book

theorem cuts_framed (marks : List Mark) :
    cuts [] (framed marks) =
      (Bracket.opening "quest" []).piece :: (((Bracket.opening "roleplay" []).piece ::
        (((Bracket.opening "p" []).piece :: (cuts [] marks ++ [(Bracket.closing "p").piece])) ++
          [(Bracket.closing "roleplay").piece])) ++ [(Bracket.closing "quest").piece]) := by
  simp [framed, cuts, runPieces, cuts_append_bracket]

theorem sound_framed {marks : List Mark} (h : ∀ mark ∈ marks, mark.Sound) :
    ∀ mark ∈ framed marks, mark.Sound := by
  have hquest : IsLocalName "quest".toList := by decide
  have hcard : IsLocalName "roleplay".toList := by decide
  have hparagraph : IsLocalName "p".toList := by decide
  simp only [framed, List.forall_mem_cons, List.forall_mem_append]
  exact ⟨⟨hquest, by simp⟩, ⟨hcard, by simp⟩, ⟨hparagraph, by simp⟩, h, hparagraph, hcard, hquest,
    by simp⟩

theorem exists_enclosed_of_map_eq {α β : Type} {f : α → β} {items : List α} {first last : β}
    {inner : List β} (h : items.map f = first :: (inner ++ [last])) :
    ∃ start within stop, items = start :: (within ++ [stop]) ∧ f start = first ∧
      within.map f = inner ∧ f stop = last := by
  obtain ⟨start, more, rfl, hstart, hmore⟩ := List.map_eq_cons_iff.1 h
  obtain ⟨within, rest, rfl, hwithin, hrest⟩ := List.map_eq_append_iff.1 hmore
  obtain ⟨stop, none, rfl, hstop, hnone⟩ := List.map_eq_cons_iff.1 hrest
  cases List.map_eq_nil_iff.1 hnone
  exact ⟨start, within, stop, rfl, hstart, hwithin, hstop⟩

/-- Without attributes of the same name, a balanced row is read within a fresh gamebook. -/
theorem foldlM_framed {marks : List Mark} (hbalanced : Balanced marks)
    (hsound : ∀ mark ∈ marks, mark.Sound) (hdistinct : NamesDistinct marks) {placed : List Placed}
    (hplaced : placed.map Placed.piece = cuts [] (framed marks)) :
    ∃ children book card paragraph, placed.foldlM Progress.step ⟨[], none, false⟩ =
        .ok ⟨[], some (frame children book card paragraph), false⟩ ∧
      marksAll children = settled [] marks := by
  rw [cuts_framed] at hplaced
  obtain ⟨book, cards, bookEnd, rfl, hbook, hcards, hbookEnd⟩ := exists_enclosed_of_map_eq hplaced
  obtain ⟨card, paragraphs, cardEnd, rfl, hcard, hparagraphs, hcardEnd⟩ :=
    exists_enclosed_of_map_eq hcards
  obtain ⟨paragraph, inner, paragraphEnd, rfl, hparagraph, hinner, hparagraphEnd⟩ :=
    exists_enclosed_of_map_eq hparagraphs
  have hread (stack : List Open) (joins : Bool) := foldlM_element (by simp) (by simp)
    hparagraph hparagraphEnd stack
    (p := fun children => marksAll children.reverse = settled [] marks)
    (fun scope => foldlM_cuts _ _ hbalanced hsound hdistinct hinner) joins
  have hcardRead (stack : List Open) (joins : Bool) := foldlM_element (by simp) (by simp)
    hcard hcardEnd stack
    (p := fun cards => ∃ children, marksAll children = settled [] marks ∧
      cards = [.element "p" [] children ⟨paragraph.span.start, paragraphEnd.span.stop⟩])
    (fun scope => by
      obtain ⟨children, hchildren, hfold⟩ := hread
        (.ofOpening "roleplay" [] scope card.span.start :: stack) false
      exact ⟨_, false, hfold, children.reverse, hchildren, rfl⟩) joins
  obtain ⟨books, ⟨cards, ⟨children, hchildren, rfl⟩, rfl⟩, hfold⟩ := foldlM_element (by simp)
    (by simp) hbook hbookEnd []
    (p := fun books => ∃ cards, (∃ children, marksAll children = settled [] marks ∧
        cards = [.element "p" [] children ⟨paragraph.span.start, paragraphEnd.span.stop⟩]) ∧
      books = [.element "roleplay" [] cards ⟨card.span.start, cardEnd.span.stop⟩])
    (fun scope => by
      obtain ⟨cards, ⟨children, hchildren, rfl⟩, hfold⟩ := hcardRead
        [.ofOpening "quest" [] scope book.span.start] false
      exact ⟨_, false, hfold, _, ⟨children, hchildren, rfl⟩, rfl⟩) false
  exact ⟨children, _, _, _, hfold, hchildren⟩

theorem body?_framed (marks : List Mark) :
    body? (afterMark (written (framed marks))) = .ok (written (framed marks)) := by
  have htext : ∃ rest, written (framed marks) = '<' :: 'q' :: rest := ⟨_, rfl⟩
  obtain ⟨rest, hrest⟩ := htext
  rw [hrest, afterMark, if_neg (by decide), body?, if_neg (by simp)]

theorem pieces_framed {marks : List Mark} (h : ∀ mark ∈ marks, mark.Sound) :
    ∃ placed, pieces (.after .first ((written (framed marks)).take
        ((written (framed marks)).length - (written (framed marks)).length)))
      (written (framed marks)) = .ok placed ∧
      placed.map Placed.piece = cuts [] (framed marks) :=
  pieces_written (sound_framed h) _

/-- A balanced row without attributes of the same name is read as what it settles as. -/
theorem read_framed {marks : List Mark} (hbalanced : Balanced marks)
    (hsound : ∀ mark ∈ marks, mark.Sound) (hdistinct : NamesDistinct marks) :
    ∃ children book card paragraph,
      read (written (framed marks)) = .ok (frame children book card paragraph) ∧
      marksAll children = settled [] marks := by
  obtain ⟨placed, hplaced, hcuts⟩ := pieces_framed hsound
  obtain ⟨children, book, card, paragraph, hfold, hchildren⟩ :=
    foldlM_framed hbalanced hsound hdistinct hcuts
  refine ⟨children, book, card, paragraph, ?_, hchildren⟩
  exact read_eq_ok_iff.2 ⟨allAllowed_written (sound_framed hsound), _, placed, _,
    body?_framed marks, hplaced, hfold, rfl⟩

/-- A row with two attributes of the same name is not read. -/
theorem namesDistinct_of_read_framed {marks : List Mark} (hsound : ∀ mark ∈ marks, mark.Sound)
    {root : Node} (h : read (written (framed marks)) = .ok root) : NamesDistinct marks := by
  obtain ⟨-, body, placed, progress, hbody, hplaced, hfold, -⟩ := read_eq_ok_iff.1 h
  cases (body?_framed marks).symm.trans hbody
  obtain ⟨other, hother, hcuts⟩ := pieces_framed hsound
  cases hother.symm.trans hplaced
  refine namesDistinct_iff.2 fun name attributes hmem => ?_
  have hframed : .bracket (.opening name attributes) ∈ framed marks := by
    simp [framed, hmem]
  have hpiece := piece_mem_cuts [] hframed
  rw [← hcuts] at hpiece
  obtain ⟨found, hfound, hopening⟩ := List.mem_map.1 hpiece
  obtain ⟨before, after, hstep⟩ := Except.exists_step_of_foldlM hfold hfound
  rw [Progress.step, hopening, Bracket.piece] at hstep
  obtain ⟨-, -, hstep⟩ := Except.bind_eq_ok_iff.1 hstep
  obtain ⟨resolved, hresolved, -⟩ := Except.bind_eq_ok_iff.1 hstep
  have hopened := hsound _ hmem
  rw [resolveTag_rawAttribute (fun pair hpair => (hopened.2 pair hpair).2.1)] at hresolved
  by_contra hnodup
  rw [if_neg hnodup] at hresolved
  cases hresolved

theorem ofRoot_frame (children : List Node) (book card paragraph : Span) :
    Outline.ofRoot (frame children book card paragraph) =
      .ok (.branch ⟨.quest, NameMap.empty, "", "", some book⟩
        [.branch ⟨.roleplay, NameMap.empty, "", "", some card⟩
          [.branch (Outline.leafNode .text NameMap.empty children paragraph) []]]) := by
  rfl

theorem nodes_frame (children : List Node) (book card paragraph : Span) :
    (frame children book card paragraph).nodes =
      [⟨.quest, NameMap.empty, "", "", some book⟩, ⟨.roleplay, NameMap.empty, "", "", some card⟩,
        Outline.leafNode .text NameMap.empty children paragraph] := by
  rfl

/-! ## The markup within a node -/

/-- The marks of what stands within a piece of markup. A text is all that stands within it. -/
def Node.innerMarks : Node → List Mark
  | .element _ _ children _ => marksAll children
  | .text content _ => content.toList.map .char

theorem Node.innerMarks_subset (node : Node) : node.innerMarks ⊆ node.marks := by
  cases node with
  | element name attributes children span =>
      intro mark hmark
      rw [Node.marks]
      simp [show mark ∈ marksAll children from hmark]
  | text content span => exact List.Subset.refl _

theorem Node.balanced_innerMarks (node : Node) : Balanced node.innerMarks := by
  cases node with
  | element name attributes children span => exact balanced_marksAll children
  | text content span => exact .map_char content.toList

/-- A node that is shown to the reader has the markup of what stands within its piece, and the text
without the brackets. -/
theorem inner_of_made? {piece : Node} {node : Gamebook.Node} (h : piece.made? = some node)
    (hmarkup : node.tag.holdsMarkup = true) :
    node.markup.toList = written (trimmedMarks piece.innerMarks) ∧
      Text.trim node.text.toList = Text.trim (chars piece.innerMarks) := by
  cases piece with
  | text content span =>
      obtain ⟨outline, hloose, rfl⟩ := Option.map_eq_some_iff.1 h
      obtain ⟨-, rfl⟩ := Outline.looseText?_eq_some hloose
      simp only [Outline.node, String.toList_ofList, Node.innerMarks]
      rw [trimmedMarks_map_char, written_map_char, chars_map_char, Text.trim_trim]
      exact ⟨rfl, rfl⟩
  | element name attributes children span =>
      obtain ⟨tag, -, rfl⟩ := Option.map_eq_some_iff.1 h
      split at hmarkup
      next hleaf =>
        have htag : tag.holdsMarkup = true := hmarkup
        rw [if_pos hleaf]
        simp only [Outline.leafNode, htag, if_true, String.toList_ofList, Node.innerMarks]
        rw [markups_eq_written, trim_written, contents_eq_chars]
        exact ⟨rfl, rfl⟩
      next hleaf =>
        have htag : tag.holdsMarkup = true := hmarkup
        exact absurd (Tag.isLeaf_of_holdsMarkup htag) hleaf

mutual

theorem sound_of_mem_makers : (node : Node) → node.Sound → ∀ piece ∈ node.makers, piece.Sound
  | .element name attributes children span, h, piece, hpiece => by
    rw [Node.makers, List.mem_cons] at hpiece
    rcases hpiece with rfl | hpiece
    · exact h
    · split at hpiece
      · cases hpiece
      · exact sound_of_mem_makersAll children (Node.sound_element_iff.1 h).2 piece hpiece
  | .text content span, h, piece, hpiece => by
    rw [Node.makers] at hpiece
    split at hpiece
    · cases List.mem_singleton.1 hpiece
      exact h
    · cases hpiece

theorem sound_of_mem_makersAll :
    (nodes : List Node) → (∀ node ∈ nodes, node.Sound) → ∀ piece ∈ makersAll nodes, piece.Sound
  | [], _, _, hpiece => by cases hpiece
  | first :: rest, h, piece, hpiece => by
    obtain ⟨hfirst, hrest⟩ := List.forall_mem_cons.1 h
    rcases List.mem_append.1 hpiece with hpiece | hpiece
    · exact sound_of_mem_makers first hfirst piece hpiece
    · exact sound_of_mem_makersAll rest hrest piece hpiece

end

end Markup

/-! ## Nodes in a fresh gamebook -/

/-- A gamebook with some markup in the paragraph of its only card. -/
def fresh (markup : String) : String :=
  "<quest><roleplay><p>" ++ markup ++ "</p></roleplay></quest>"

/-- In a fresh gamebook with the markup of the node, the paragraph has the markup again, and the
same text up to the blanks around it. -/
def Node.ReadsBack (node : Node) : Prop :=
  ∃ (d : Document) (paragraph : d.Ref), Document.read (fresh node.markup) = .ok d ∧
    d.size = 3 ∧ paragraph.val = 2 ∧ d.tag paragraph = .text ∧
    (d.node paragraph).markup = node.markup ∧
    Text.trimmed (d.node paragraph).text = Text.trimmed node.text

namespace Document

open Markup (Balanced NamesDistinct Mark written trimmedMarks settled chars framed marksAll)

section Fresh

variable {marks : List Mark} {markup : String} (hbalanced : Balanced marks)
  (hsound : ∀ mark ∈ marks, mark.Sound) (hmarkup : markup.toList = written marks)
include hmarkup

theorem toList_fresh : (fresh markup).toList = written (framed marks) := by
  have hstart : "<quest><roleplay><p>".toList = written [.bracket (.opening "quest" []),
      .bracket (.opening "roleplay" []), .bracket (.opening "p" [])] := by
    decide +kernel
  have hstop : "</p></roleplay></quest>".toList = written [.bracket (.closing "p"),
      .bracket (.closing "roleplay"), .bracket (.closing "quest")] := by
    decide +kernel
  calc (fresh markup).toList
      = "<quest><roleplay><p>".toList ++ markup.toList ++ "</p></roleplay></quest>".toList :=
        (String.toList_append ..).trans (congrArg (· ++ _) (String.toList_append ..))
    _ = written _ ++ written marks ++ written _ :=
        congrArg₂ (· ++ ·) (congrArg₂ (· ++ ·) hstart hmarkup) hstop
    _ = written (framed marks) := by
        rw [← Markup.written_append, ← Markup.written_append, List.append_assoc]
        rfl

include hsound

/-- A fresh gamebook with two attributes of the same name is not accepted. -/
theorem namesDistinct_of_read_fresh {d : Document} (h : read (fresh markup) = .ok d) :
    NamesDistinct marks := by
  obtain ⟨root, -, hroot, -⟩ := exists_outline_of_read h
  rw [toList_fresh hmarkup] at hroot
  exact Markup.namesDistinct_of_read_framed hsound hroot

include hbalanced

/-- Any other is accepted, and its paragraph holds what the row settles as. -/
theorem exists_read_fresh (hdistinct : NamesDistinct marks) :
    ∃ (d : Document) (paragraph : d.Ref), read (fresh markup) = .ok d ∧
      d.size = 3 ∧ paragraph.val = 2 ∧ d.tag paragraph = .text ∧
      (d.node paragraph).markup.toList = written (trimmedMarks (settled [] marks)) ∧
      (d.node paragraph).text.toList = chars (settled [] marks) ∧
      ∀ mark ∈ settled [] marks, mark.Sound := by
  obtain ⟨children, book, card, paragraph, hread, hchildren⟩ :=
    Markup.read_framed hbalanced hsound hdistinct
  rw [← toList_fresh hmarkup] at hread
  have houtline := Markup.ofRoot_frame children book card paragraph
  have hnodes := nodes_ofOutline houtline
  rw [Markup.nodes_frame] at hnodes
  revert houtline hnodes
  generalize Outline.branch ⟨.quest, NameMap.empty, "", "", some book⟩
    [.branch ⟨.roleplay, NameMap.empty, "", "", some card⟩
      [.branch (Outline.leafNode .text NameMap.empty children paragraph) []]] = outline
  intro houtline hnodes
  have hids := withDistinctIds_cases outline
  rw [hnodes] at hids
  have hok : (ofOutline outline).withDistinctIds = .ok (ofOutline outline) := by
    rcases hids with ⟨-, hok⟩ | ⟨hrepeated, -⟩
    · exact hok
    · exact absurd List.nodup_nil hrepeated
  have hsize : (ofOutline outline).entries.size = 3 := by
    have hlength := congrArg List.length hnodes
    rw [List.length_map, refs, List.length_finRange] at hlength
    exact hlength
  have hnode (r : (ofOutline outline).Ref) (hr : r.val = 2) : (ofOutline outline).node r =
      Outline.leafNode .text NameMap.empty children paragraph := by
    have hrefs : (ofOutline outline).refs[r.val]? = some r := by
      rw [refs, List.getElem?_eq_getElem (by simp)]
      simp
    have hget := congrArg (fun nodes => nodes[r.val]?) hnodes
    rw [List.getElem?_map, hrefs, hr] at hget
    exact Option.some.inj hget
  rw [← hchildren]
  refine ⟨ofOutline outline, ⟨2, by omega⟩, ?_, hsize, rfl, ?_, ?_, ?_, ?_⟩
  · rw [read_eq_bind hread, houtline]
    exact hok
  · rw [tag, hnode _ rfl]
    rfl
  · rw [hnode _ rfl]
    simp only [Outline.leafNode, Tag.holdsMarkup, if_true, String.toList_ofList]
    rw [Markup.markups_eq_written, Markup.trim_written]
  · rw [hnode _ rfl]
    simp only [Outline.leafNode, String.toList_ofList]
    rw [Markup.contents_eq_chars]
  · intro mark hmark
    apply Markup.sound_of_read hread mark
    simp [Markup.frame, Markup.Node.marks, marksAll, hmark]

end Fresh

/-- A node with the markup and the text of a row is found again in a fresh gamebook exactly if the
row can be read and settles as it is. -/
theorem readsBack_iff_settled {node : Node} {marks : List Mark} (hbalanced : Balanced marks)
    (hsound : ∀ mark ∈ marks, mark.Sound) (hmarkup : node.markup.toList = written marks)
    (htext : Text.trim node.text.toList = Text.trim (chars marks))
    (htrim : Text.trim (written marks) = written marks) :
    node.ReadsBack ↔ NamesDistinct marks ∧ settled [] marks = marks := by
  constructor
  · rintro ⟨d, paragraph, hread, -, hnumber, -, hsame, -⟩
    have hdistinct := namesDistinct_of_read_fresh hsound hmarkup hread
    refine ⟨hdistinct, ?_⟩
    obtain ⟨other, second, hother, -, hsecond, -, hmarks, -, hsettled⟩ :=
      exists_read_fresh hbalanced hsound hmarkup hdistinct
    cases hread.symm.trans hother
    cases Fin.ext (hnumber.trans hsecond.symm)
    rw [hsame, hmarkup] at hmarks
    have hsub := Markup.trimmedMarks_sublist (settled [] marks)
    have heq := Markup.written_injective hsound
      (fun mark hmark => hsettled mark (hsub.subset hmark)) hmarks
    -- Nothing is put in, so nothing can have been taken from the ends either.
    rw [← heq] at hsub
    have hlength := Markup.length_settled_le [] marks
    rw [List.length_nil, Nat.zero_add] at hlength
    exact (hsub.eq_of_length_le hlength).symm
  · rintro ⟨hdistinct, hsettled⟩
    obtain ⟨d, paragraph, hread, hsize, hnumber, htag, hmarks, hchars, -⟩ :=
      exists_read_fresh hbalanced hsound hmarkup hdistinct
    refine ⟨d, paragraph, hread, hsize, hnumber, htag, ?_, ?_⟩
    · rw [← String.toList_inj, hmarks, hsettled, ← Markup.trim_written, htrim, hmarkup]
    · rw [Text.trimmed, Text.trimmed, hchars, hsettled, htext]

/-- Each node is made from its own piece of markup. What a node that is shown to the reader has as
its markup is accepted within a fresh gamebook exactly if no element within its piece has two
attributes of the same name. It is then found again, with the same text, exactly if no attribute has
a tab or a line end, and if every carriage return stands before a character that is written by name,
or between such a character and a tag. Blanks at the ends of the piece do not count. -/
theorem readsBack_iff_of_read {text : String} {d : Document} (h : read text = .ok d) :
    ∃ root, Markup.read text.toList = .ok root ∧ root.makers.length = d.size ∧
      ∀ (r : d.Ref) (piece : Markup.Node), root.makers[r.val]? = some piece →
        piece.made? = some (d.node r) ∧
        ((d.tag r).holdsMarkup = true →
          ((∃ again, read (fresh (d.node r).markup) = .ok again) ↔
            NamesDistinct (trimmedMarks piece.innerMarks)) ∧
          ((d.node r).ReadsBack ↔
            NamesDistinct (trimmedMarks piece.innerMarks) ∧
            (∀ mark ∈ trimmedMarks piece.innerMarks, ∀ pair ∈ mark.attributes,
              ∀ c ∈ pair.2.toList, Markup.isBreak c = false) ∧
            ∀ before after, trimmedMarks piece.innerMarks = before ++ .char '\r' :: after →
              after.head?.any Mark.isNamed = true ∨
                before.getLast?.any Mark.isNamed = true ∧
                  after.head?.all Mark.isBracket = true)) := by
  obtain ⟨root, hroot, hmakers⟩ := made_of_read h
  refine ⟨root, hroot, ?_, ?_⟩
  · have hlength := congrArg List.length hmakers
    simp only [List.length_map, refs, List.length_finRange] at hlength
    exact hlength
  · intro r piece hpiece
    have hmade : piece.made? = some (d.node r) := by
      have hget := congrArg (fun nodes => nodes[r.val]?) hmakers
      simpa [hpiece, refs] using hget
    refine ⟨hmade, fun hholds => ?_⟩
    obtain ⟨hmarkup, htext⟩ := Markup.inner_of_made? hmade hholds
    have hpieceSound := Markup.sound_of_mem_makers root (Markup.sound_of_read hroot) piece
      (List.mem_of_getElem? hpiece)
    have hsound : ∀ mark ∈ trimmedMarks piece.innerMarks, mark.Sound := fun mark hmark =>
      hpieceSound mark (piece.innerMarks_subset ((Markup.trimmedMarks_sublist _).subset hmark))
    have hbalanced := piece.balanced_innerMarks.trimmedMarks
    constructor
    · constructor
      · rintro ⟨again, hagain⟩
        exact namesDistinct_of_read_fresh hsound hmarkup hagain
      · intro hdistinct
        obtain ⟨again, -, hagain, -⟩ := exists_read_fresh hbalanced hsound hmarkup hdistinct
        exact ⟨again, hagain⟩
    · rw [← Markup.settled_eq_self_iff]
      apply readsBack_iff_settled hbalanced hsound hmarkup
      · rw [htext, Markup.trim_chars_trimmedMarks]
      · rw [← Markup.trim_written, Text.trim_trim]

/-- A card with a paragraph, in which elements stand within one another, and an instruction, in
which a line feed stands within an attribute. -/
def plaque : String :=
  "<quest><roleplay><p>A <b id='\"x\"'>&lt; <i/></b> </p>" ++
    "<instruction><i k='1&#10;2'/></instruction></roleplay></quest>"

/-- The paragraph of the plaque is found again in a fresh gamebook, and the instruction is not,
though its markup is accepted. -/
theorem readsBack_iff_of_read_plaque :
    ∃ (d : Document) (paragraph instruction : d.Ref), read plaque = .ok d ∧
      (d.node paragraph).markup =
        "A <b id=\"&quot;x&quot;\">&lt; <i></i></b>" ∧
      (d.node paragraph).ReadsBack ∧ ¬ (d.node instruction).ReadsBack ∧
      ∃ again, read (fresh (d.node instruction).markup) = .ok again := by
  have hnode : (read plaque).toOption.any (fun d => (d.ref? 2).any fun paragraph =>
      (d.ref? 3).any fun instruction => decide (paragraph.val = 2 ∧ instruction.val = 3 ∧
        d.tag paragraph = .text ∧ d.tag instruction = .instruction ∧ (d.node paragraph).markup =
          "A <b id=\"&quot;x&quot;\">&lt; <i></i></b>")) = true := by
    decide +kernel
  have hmarkup : (Markup.read plaque.toList).toOption.any (fun root : Markup.Node =>
      root.makers[2]?.any fun first : Markup.Node => root.makers[3]?.any fun second : Markup.Node =>
      decide (
        NamesDistinct (trimmedMarks first.innerMarks) ∧
        (∀ mark ∈ trimmedMarks first.innerMarks, ∀ pair ∈ mark.attributes,
          pair.2.toList.any Markup.isBreak = false) ∧
        Mark.char '\r' ∉ trimmedMarks first.innerMarks ∧
        NamesDistinct (trimmedMarks second.innerMarks) ∧
        ¬ ∀ mark ∈ trimmedMarks second.innerMarks, ∀ pair ∈ mark.attributes,
          pair.2.toList.any Markup.isBreak = false)) = true := by
    decide +kernel
  obtain ⟨d, hd, hnode⟩ := (Option.any_eq_true _ _).1 hnode
  obtain ⟨paragraph, -, hnode⟩ := (Option.any_eq_true _ _).1 hnode
  obtain ⟨instruction, -, hnode⟩ := (Option.any_eq_true _ _).1 hnode
  obtain ⟨hparagraph, hinstruction, htext, hcommand, hshown⟩ := of_decide_eq_true hnode
  have hread := Except.toOption_eq_some_iff.1 hd
  obtain ⟨root, hroot, -, hpieces⟩ := readsBack_iff_of_read hread
  obtain ⟨other, hother, hmarkup⟩ := (Option.any_eq_true _ _).1 hmarkup
  cases hroot.symm.trans (Except.toOption_eq_some_iff.1 hother)
  obtain ⟨first, hfirst, hmarkup⟩ := (Option.any_eq_true _ _).1 hmarkup
  obtain ⟨second, hsecond, hmarkup⟩ := (Option.any_eq_true _ _).1 hmarkup
  obtain ⟨hdistinct, hvalues, hreturns, haccepted, hbreak⟩ := of_decide_eq_true hmarkup
  simp only [List.any_eq_false, Bool.not_eq_true] at hvalues hbreak
  rw [← hparagraph] at hfirst
  rw [← hinstruction] at hsecond
  obtain ⟨-, hback⟩ := (hpieces paragraph first hfirst).2 (by rw [htext]; rfl)
  obtain ⟨haccept, hlost⟩ := (hpieces instruction second hsecond).2 (by rw [hcommand]; rfl)
  refine ⟨d, paragraph, instruction, hread, hshown, hback.2 ⟨hdistinct, hvalues, ?_⟩,
    fun h => hbreak (hlost.1 h).2.1, haccept.2 haccepted⟩
  intro before after heq
  rw [heq] at hreturns
  exact absurd (by simp) hreturns

end Document

end Gamebook
