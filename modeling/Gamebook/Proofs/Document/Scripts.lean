import Gamebook.Content.Rendering
import Gamebook.Proofs.Document.Outlines
import Gamebook.Proofs.Text.Entities
import Gamebook.Proofs.Text.Spans

/-! # Scripts in text and in markup

A node has its scripts twice: in its text, from which the state of play is read, and in its markup,
in which the reader is shown their values. Both are the same scripts in the same order if no element
stands within the node (`scripts_agree_of_read`).
-/

namespace Gamebook

namespace Markup

/-- Whether a piece of markup is a text. -/
def Node.isText : Node → Bool
  | .text .. => true
  | .element .. => false

/-- Whether a piece of markup is a text or an element with nothing but text within it. -/
def Node.isPlain : Node → Bool
  | .text .. => true
  | .element _ _ children _ => children.all isText

/-- Text without elements is written with characters by name, and nothing else. -/
theorem markups_eq_escapeText {children : List Node} (h : children.all Node.isText = true) :
    markups children = Text.escapeText (contents children) := by
  induction children with
  | nil => rfl
  | cons first rest ih =>
      rw [List.all_cons, Bool.and_eq_true] at h
      cases first with
      | element => exact absurd h.1 Bool.false_ne_true
      | text content span =>
          rw [markups, contents, ih h.2, Text.escapeText, Text.escapeText, List.flatMap_append]
          rfl

end Markup

/-- The spans of a text and of its markup are those of the text before and after characters were
written by name. -/
theorem spanBodies_markup_of_made? {piece : Markup.Node} {node : Node}
    (hmade : piece.made? = some node) (htag : node.tag = .text) (hplain : piece.isPlain = true) :
    Text.spanBodies node.markup.toList =
      (Text.spanBodies node.text.toList).map Text.escapeText := by
  cases piece with
  | text content span =>
      obtain ⟨outline, hloose, rfl⟩ := Option.map_eq_some_iff.1 hmade
      obtain ⟨-, rfl⟩ := Outline.looseText?_eq_some hloose
      simp only [Outline.node, String.toList_ofList]
      rw [Text.spanBodies_escapeText]
  | element name attributes children span =>
      obtain ⟨tag, -, rfl⟩ := Option.map_eq_some_iff.1 hmade
      split at htag
      next hleaf =>
        rw [if_pos hleaf]
        have htag' : tag = .text := htag
        simp only [Outline.leafNode, htag', Tag.holdsMarkup, if_true, String.toList_ofList]
        rw [Text.spanBodies_trim, Markup.markups_eq_escapeText hplain, Text.spanBodies_escapeText]
      next hleaf =>
        have htag' : tag = .text := htag
        rw [htag'] at hleaf
        exact absurd rfl hleaf

namespace Document

/-- Each node is made from its own piece of markup. If it is a text without elements within, the
spans of its text and of its markup are as many and, in order, the same scripts once the names of
characters in markup are read. Those names are read back as what was written, also if they are put
in and taken out one kind after the other. -/
theorem scripts_agree_of_read {text : String} {d : Document} (h : read text = .ok d) :
    (∃ root, Markup.read text.toList = .ok root ∧ root.makers.length = d.size ∧
      ∀ (r : d.Ref) (piece : Markup.Node), root.makers[r.val]? = some piece →
        piece.made? = some (d.node r) ∧
        (d.tag r = .text → piece.isPlain = true →
          List.Forall₂ (fun body escaped =>
              Script.ofBody body = Script.ofBody (Text.decodeEntities escaped))
            (Text.spanBodies (d.node r).text.toList)
            (Text.spanBodies (d.node r).markup.toList))) ∧
    ∀ s : List Char,
      Text.decodeEntities (Text.escapeText s) = s ∧
      Text.decodeEntities s = Text.replaceEach Text.entities s ∧
      Text.escapeText s =
        Text.replaceChar '>' "&gt;".toList (Text.replaceChar '<' "&lt;".toList
          (Text.replaceChar '&' "&amp;".toList s)) := by
  obtain ⟨root, hroot, hmakers⟩ := made_of_read h
  refine ⟨⟨root, hroot, ?_, ?_⟩, ?_⟩
  · have hlength := congrArg List.length hmakers
    simp only [List.length_map, refs, List.length_finRange] at hlength
    exact hlength
  · intro r piece hpiece
    have hmade : piece.made? = some (d.node r) := by
      have hget := congrArg (fun nodes => nodes[r.val]?) hmakers
      simpa [hpiece, refs] using hget
    refine ⟨hmade, ?_⟩
    intro htag hplain
    rw [spanBodies_markup_of_made? hmade htag hplain, List.forall₂_map_right_iff, List.forall₂_same]
    intro body _
    rw [Text.decodeEntities_escapeText]
  · intro s
    exact ⟨Text.decodeEntities_escapeText s, Text.decodeEntities_eq_replaceEach s,
      Text.escapeText_eq_replaceChars s⟩

/-- A card whose only paragraph has scripts with named characters, around a comment and in a
character data section. -/
def riddle : String :=
  r"<quest><roleplay><p> a {{m = 'T&amp;lt;'}} <!-- b -->{{1 &lt; n}}" ++
    "<![CDATA[ {{n <= 2 && m}} ]]></p></roleplay></quest>"

/-- The markup of the riddle has other spans than its text, but the same scripts. -/
theorem scripts_agree_of_read_riddle :
    ∃ d root, read riddle = .ok d ∧ Markup.read riddle.toList = .ok root ∧
      ∃ (r : d.Ref) (piece : Markup.Node), root.makers[r.val]? = some piece ∧ d.tag r = .text ∧
        piece.isPlain = true ∧
        (Text.spanBodies (d.node r).text.toList).map String.ofList =
          ["m = 'T&lt;'", "1 < n", "n <= 2 && m"] ∧
        (Text.spanBodies (d.node r).markup.toList).map String.ofList =
          ["m = 'T&amp;lt;'", "1 &lt; n", "n &lt;= 2 &amp;&amp; m"] ∧
        List.Forall₂ (fun body escaped =>
            Script.ofBody body = Script.ofBody (Text.decodeEntities escaped))
          (Text.spanBodies (d.node r).text.toList)
          (Text.spanBodies (d.node r).markup.toList) := by
  have hmarkup : (Markup.read riddle.toList).toOption.map (fun root =>
      root.makers[2]?.map Markup.Node.isPlain) = some (some true) := by
    decide +kernel
  have hnode : ((read riddle).toOption.bind fun d => (d.ref? 2).map fun r => (r.val, d.tag r,
      (Text.spanBodies (d.node r).text.toList).map String.ofList,
      (Text.spanBodies (d.node r).markup.toList).map String.ofList)) =
      some (2, .text, ["m = 'T&lt;'", "1 < n", "n <= 2 && m"],
        ["m = 'T&amp;lt;'", "1 &lt; n", "n &lt;= 2 &amp;&amp; m"]) := by
    decide +kernel
  obtain ⟨d, hd, hnode⟩ := Option.bind_eq_some_iff.1 hnode
  obtain ⟨r, -, hnode⟩ := Option.map_eq_some_iff.1 hnode
  obtain ⟨hr, hnode⟩ := Prod.mk.inj hnode
  obtain ⟨htag, hnode⟩ := Prod.mk.inj hnode
  obtain ⟨htext, hescaped⟩ := Prod.mk.inj hnode
  have hread := Except.toOption_eq_some_iff.1 hd
  obtain ⟨root, hroot, -, hpieces⟩ := (scripts_agree_of_read hread).1
  rw [hroot] at hmarkup
  obtain ⟨piece, hpiece, hplain⟩ := Option.map_eq_some_iff.1 (Option.some.inj hmarkup)
  rw [← hr] at hpiece
  exact ⟨d, root, hread, hroot, r, piece, hpiece, htag, hplain, htext, hescaped,
    (hpieces r piece hpiece).2 htag hplain⟩

end Document

end Gamebook
