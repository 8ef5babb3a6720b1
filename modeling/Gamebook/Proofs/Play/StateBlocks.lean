import Mathlib.Data.List.TakeWhile
import Gamebook.Proofs.Content.Replacement
import Gamebook.Proofs.Play.Ways
import Gamebook.Proofs.Script.Sequences

/-! # What a state block changes

A state block is a sequence of texts, each of these a sequence of spans, and each span a sequence of
statements. `updateContext_inTurn` says what comes of it: the texts that take part by then are read
one after the other, a span that only assigns is made as a whole or not at all, and nothing else
changes, whatever else stands in the block or behind it.
-/

namespace Gamebook

open Context

namespace Context

/-- The second context has all variables of the first, and agrees with it on all variables, those
that it lacks included, but the named ones. -/
structure VariesOn (names : String → Prop) (a b : Context) : Prop where
  same : ∀ name, ¬ names name → b.get? name = a.get? name
  kept : ∀ name, a.contains name = true → b.contains name = true

variable {names : String → Prop} {a b c : Context}

theorem VariesOn.refl (a : Context) : VariesOn names a a :=
  ⟨fun _ _ => rfl, fun _ h => h⟩

theorem VariesOn.trans (h : VariesOn names a b) (h' : VariesOn names b c) :
    VariesOn names a c where
  same name hname := (h'.same name hname).trans (h.same name hname)
  kept name hname := h'.kept name (h.kept name hname)

theorem variesOn_insert {name : String} (hname : names name) (value : Value) :
    VariesOn names a (NameMap.insert a name value) where
  same other hother := by
    apply NameMap.get?_insert_of_ne
    rintro rfl
    exact hother hname
  kept other hother := by
    rw [NameMap.contains, NameMap.get?_insert]
    split
    · rfl
    · exact hother

end Context

/-! ## Texts, spans and blocks -/

namespace Script

/-- Every statement of a script assigns. -/
def AssignsOnly (script : Script) : Prop :=
  ∀ statement ∈ script.statements, ∃ name e, statement = .assign name e

end Script

namespace Text

/-- What a span of a state block does. If it only assigns, its assignments are made in turn, unless
one of them fails. A span of which one fails does nothing at all, and neither does one that shows a
value or is no script. -/
inductive SpanLeaves (context : Context) (body : List Char) : Context → Prop where
  | made {script : Script} {next : Context} (hread : Script.ofBody body = .ok script)
      (hassigns : script.AssignsOnly)
      (hmade : InTurn Script.Statement.Leaves context script.statements next) :
      SpanLeaves context body next
  | failing {script : Script} {failure : Script.Failure} (hread : Script.ofBody body = .ok script)
      (hassigns : script.AssignsOnly)
      (hfails : Script.FailsFirst context script.statements failure) :
      SpanLeaves context body context
  | showing {script : Script} {e : Script.Expr} (hread : Script.ofBody body = .ok script)
      (hshows : .expr e ∈ script.statements) : SpanLeaves context body context
  | unreadable {failure : Script.ParseFailure} (hread : Script.ofBody body = .error failure) :
      SpanLeaves context body context

/-- What a piece of a text does. Literal text does nothing. -/
inductive Piece.Leaves (context : Context) : Piece → Context → Prop where
  | literal {text : List Char} : Leaves context (.literal text) context
  | span {body : List Char} {next : Context} (hspan : SpanLeaves context body next) :
      Leaves context (.span body) next

end Text

namespace Node

/-- A text that is made of spans alone, with nothing but blanks around them. -/
def IsStateParagraph (node : Node) : Prop :=
  node.tag = .text ∧ ∃ cut, Text.IsCut node.text.toList cut ∧ (∃ body, .span body ∈ cut) ∧
    ∀ text, .literal text ∈ cut → Text.allBlank text = true

/-- What a text of a state block does. It is read piece by piece if it takes part. -/
inductive Leaves (context : Context) (node : Node) : Context → Prop where
  | hidden (hhidden : (node.isEnabled context).value = false) : Leaves context node context
  | read {cut : List Text.Piece} {next : Context} (hpart : (node.isEnabled context).value = true)
      (hcut : Text.IsCut node.text.toList cut)
      (hpieces : InTurn Text.Piece.Leaves context cut next) : Leaves context node next

/-- A variable is assigned in a span of the text that only assigns. -/
def Sets (node : Node) (name : String) : Prop :=
  ∃ cut body script e, Text.IsCut node.text.toList cut ∧ .span body ∈ cut ∧
    Script.ofBody body = .ok script ∧ script.AssignsOnly ∧ .assign name e ∈ script.statements

end Node

/-! ## The context that is left -/

theorem Text.spanLeaves_iff {context next : Context} {body : List Char} :
    SpanLeaves context body next ↔ next = (applyStateSpan context body).value := by
  unfold applyStateSpan
  constructor
  · intro h
    cases h with
    | made hread hassigns hmade =>
        obtain ⟨effect, hrun, rfl⟩ := Script.exists_runAll_of_inTurn hmade (.boolean true)
        have hrun : Script.run context _ = .ok effect := hrun
        simp only [hread, if_pos (Content.isAssignment_iff.2 hassigns), hrun]
        rfl
    | failing hread hassigns hfails =>
        have hrun : Script.run context _ = .error _ := Script.runAll_eq_error_iff.2 hfails
        simp only [hread, if_pos (Content.isAssignment_iff.2 hassigns), hrun]
        rfl
    | showing hread hshows =>
        simp only [hread, if_neg (Content.not_isAssignment_of_expr hshows)]
        rfl
    | unreadable hread =>
        simp only [hread]
        rfl
  · intro h
    split at h
    next failure hread =>
      subst h
      exact .unreadable hread
    next script hread =>
      split at h
      next hassigns =>
        have hassigns := Content.isAssignment_iff.1 hassigns
        split at h
        next effect hrun =>
          subst h
          exact .made hread hassigns (Script.inTurn_of_runAll hrun)
        next failure hrun =>
          subst h
          exact .failing hread hassigns (Script.runAll_eq_error_iff.1 hrun)
      next hassigns =>
        subst h
        obtain ⟨e, he⟩ := Content.exists_expr_of_not_isAssignment (Bool.eq_false_iff.2 hassigns)
        exact .showing hread he

namespace Text

/-- The context after one piece of a text. -/
def Piece.contextAfter (context : Context) : Piece → Context
  | .literal _ => context
  | .span body => (applyStateSpan context body).value

theorem Piece.leaves_iff (context : Context) (piece : Piece) (next : Context) :
    piece.Leaves context next ↔ next = piece.contextAfter context := by
  cases piece with
  | literal text =>
      constructor
      · rintro ⟨⟩
        rfl
      · rintro rfl
        exact .literal
  | span body =>
      constructor
      · rintro (_ | hspan)
        exact spanLeaves_iff.1 hspan
      · intro h
        exact .span (spanLeaves_iff.2 h)

/-- The spans of a text are read one after the other, and the literal text is passed over. -/
theorem foldl_contextAfter (context : Context) (text : List Char) :
    (pieces text).foldl Piece.contextAfter context =
      ((spanBodies text).foldlM applyStateSpan context).value := by
  rw [Logged.value_foldlM, spanBodies, List.foldl_filterMap]
  congr 1
  funext context piece
  cases piece <;> rfl

end Text

namespace Node

/-- The context after one text of a state block. -/
def contextAfter (context : Context) (node : Node) : Context :=
  (applyStateText context node).value

theorem leaves_iff (context : Context) (node : Node) (next : Context) :
    node.Leaves context next ↔ next = node.contextAfter context := by
  have hpieces : InTurn Text.Piece.Leaves context (Text.pieces node.text.toList) next ↔
      next = ((Text.spanBodies node.text.toList).foldlM applyStateSpan context).value := by
    rw [inTurn_iff_eq_foldl Text.Piece.leaves_iff, Text.foldl_contextAfter]
  rw [contextAfter, applyStateText, Logged.value_bind, Logged.value_ite]
  constructor
  · rintro (hhidden | ⟨hpart, hcut, hread⟩)
    · rw [hhidden]
      rfl
    · rw [if_pos hpart, ← hpieces, ← Text.isCut_iff.1 hcut]
      exact hread
  · intro h
    split at h
    next hpart => exact .read hpart (Text.isCut_pieces _) (hpieces.2 h)
    next hhidden =>
      subst h
      exact .hidden (Bool.eq_false_iff.2 hhidden)

theorem isStateParagraph_iff {node : Node} : node.IsStateParagraph ↔ node.isStateText = true := by
  have hcut : (∃ cut, Text.IsCut node.text.toList cut ∧ (∃ body, .span body ∈ cut) ∧
      ∀ text, .literal text ∈ cut → Text.allBlank text = true) ↔
      Text.isSpansOnly node.text.toList = true := by
    simp only [Text.isCut_iff, exists_eq_left, Text.isSpansOnly, Bool.and_eq_true, List.any_eq_true,
      List.all_eq_true]
    refine and_congr ⟨?_, ?_⟩ ⟨?_, ?_⟩
    · rintro ⟨body, hbody⟩
      exact ⟨_, hbody, rfl⟩
    · rintro ⟨_ | body, hpiece, hspan⟩
      · cases hspan
      · exact ⟨body, hpiece⟩
    · rintro h (text | body) hpiece
      · exact h text hpiece
      · rfl
    · intro h text htext
      exact h _ htext
  rw [IsStateParagraph, hcut, isStateText, Bool.and_eq_true, beq_iff_eq]

end Node

/-! ## The variables that are left alone -/

variable {names : String → Prop}

theorem Script.Statement.Leaves.variesOn {context next : Context} {statement : Script.Statement}
    (h : statement.Leaves context next)
    (hnames : ∀ name e, statement = .assign name e → names name) :
    VariesOn names context next := by
  cases h with
  | assign heval => exact variesOn_insert (hnames _ _ rfl) _
  | expr heval => exact .refl context

theorem Text.SpanLeaves.variesOn {context next : Context} {body : List Char}
    (h : SpanLeaves context body next)
    (hnames : ∀ script name e, Script.ofBody body = .ok script → script.AssignsOnly →
      .assign name e ∈ script.statements → names name) : VariesOn names context next := by
  cases h with
  | @made script _ hread hassigns hmade =>
      refine hmade.relates VariesOn.refl (fun _ _ _ => VariesOn.trans) ?_
      intro statement hmem a b hstep
      refine hstep.variesOn ?_
      rintro name e rfl
      exact hnames script name e hread hassigns hmem
  | failing | showing | unreadable => exact .refl context

theorem Node.Leaves.variesOn {context next : Context} {node : Node} (h : node.Leaves context next)
    (hnames : ∀ name, node.Sets name → names name) : VariesOn names context next := by
  cases h with
  | hidden => exact .refl context
  | @read cut _ _ hcut hpieces =>
      refine hpieces.relates VariesOn.refl (fun _ _ _ => VariesOn.trans) ?_
      rintro piece hmem a b hstep
      cases hstep with
      | literal => exact .refl a
      | @span body _ hspan =>
          refine hspan.variesOn ?_
          intro script name e hread hassigns hassign
          exact hnames name ⟨cut, body, script, e, hcut, hmem, hread, hassigns, hassign⟩

namespace Document

variable {d : Document}

theorem value_updateContext_eq_foldl (r : d.Ref) (context : Context) :
    (d.updateContext r context).value =
      ((d.stateBlock r).map d.node).foldl Node.contextAfter context := by
  rw [updateContext, Logged.value_foldlM, List.foldl_map]
  rfl

theorem map_node_stateBlock (r : d.Ref) :
    (d.stateBlock r).map d.node = ((d.children r).map d.node).takeWhile Node.isStateText := by
  rw [List.takeWhile_map]
  rfl

/-- The state block of a node is the longest beginning of its children that is made of state
paragraphs. The context after it is the one that these leave in turn, each judged and read in the
context that the ones before it have left. It has all variables that there were, and where no span
of the block that only assigns assigns a variable it has the value that it had, or none as before.
The children behind the block make no difference, and neither does the document that it stands
in. -/
theorem updateContext_inTurn (d : Document) (r : d.Ref) (context : Context) :
    (∃ behind, d.children r = d.stateBlock r ++ behind ∧
      (∀ child ∈ d.stateBlock r, (d.node child).IsStateParagraph) ∧
      ∀ first ∈ behind.head?, ¬ (d.node first).IsStateParagraph) ∧
    (∀ next, InTurn Node.Leaves context ((d.stateBlock r).map d.node) next ↔
      next = (d.updateContext r context).value) ∧
    VariesOn (fun name => ∃ child ∈ d.stateBlock r, (d.node child).Sets name) context
      (d.updateContext r context).value ∧
    (∀ (other : Document) (s : other.Ref) (behind : List Node),
      (other.children s).map other.node = (d.stateBlock r).map d.node ++ behind →
      (∀ first ∈ behind.head?, ¬ first.IsStateParagraph) →
      (other.updateContext s context).value = (d.updateContext r context).value) := by
  have hfold (next : Context) : InTurn Node.Leaves context ((d.stateBlock r).map d.node) next ↔
      next = (d.updateContext r context).value := by
    rw [inTurn_iff_eq_foldl Node.leaves_iff, value_updateContext_eq_foldl]
  have hblock : ∀ child ∈ d.stateBlock r, (d.node child).IsStateParagraph := by
    intro child hchild
    have hstate := List.mem_takeWhile_imp hchild
    exact Node.isStateParagraph_iff.2 hstate
  refine ⟨⟨_, List.takeWhile_append_dropWhile.symm, hblock, ?_⟩, hfold, ?_, ?_⟩
  · intro first hfirst hstate
    have hnot := List.head?_dropWhile_not (fun child => (d.node child).isStateText) (d.children r)
    rw [hfirst] at hnot
    exact Bool.false_ne_true (hnot.symm.trans (Node.isStateParagraph_iff.1 hstate))
  · refine ((hfold _).2 rfl).relates VariesOn.refl (fun _ _ _ => VariesOn.trans) ?_
    intro node hnode a b hstep
    obtain ⟨child, hchild, rfl⟩ := List.mem_map.1 hnode
    exact hstep.variesOn fun name hsets => ⟨child, hchild, hsets⟩
  · intro other s behind hchildren hbehind
    have hstates : ∀ node ∈ (d.stateBlock r).map d.node, node.isStateText = true := by
      intro node hnode
      obtain ⟨child, hchild, rfl⟩ := List.mem_map.1 hnode
      exact Node.isStateParagraph_iff.1 (hblock child hchild)
    have hrest : behind.takeWhile Node.isStateText = [] := by
      cases behind with
      | nil => rfl
      | cons first rest =>
          apply List.takeWhile_cons_of_neg
          exact fun hstate => hbehind first rfl (Node.isStateParagraph_iff.2 hstate)
    rw [value_updateContext_eq_foldl, value_updateContext_eq_foldl, map_node_stateBlock s,
      hchildren, List.takeWhile_append_of_pos hstates, hrest, List.append_nil]

/-- A card that says what is in the larder, in spans that fail, take no part, show a value or stand
too late. -/
def larder : Document :=
  .ofOutline (.branch (.bare .quest) [.branch (.bare .roleplay) [
    .branch { Node.bare .text with text := r"{{bread = 'rye'}} " ++
      "{{milk = bread; cheese = wine}}" } [],
    .branch { Node.bare .text with
      attributes := .ofList [("condition", "bread == 'stale'")]
      text := r"{{bread = 'gone'}}" } [],
    .branch { Node.bare .text with text := r"{{bread = 'old ' + bread; crumbs = true}}" ++
      r"{{jam = 'red'; jam}}" } [],
    .branch { Node.bare .text with text := r"And {{honey = 'dark'}}." } [],
    .branch { Node.bare .text with text := r"{{tea = 'green'}}" } []]])

/-- There is bread and there are crumbs, and the salt has not been touched. -/
theorem updateContext_inTurn_larder :
    InTurn Node.Leaves (.ofList [("salt", .string "sea")])
      ((larder.stateBlock ⟨1, by decide +kernel⟩).map larder.node)
      (.ofList [("bread", .string "old rye"), ("crumbs", .boolean true),
        ("salt", .string "sea")]) := by
  obtain ⟨-, hleaves, -⟩ := updateContext_inTurn larder ⟨1, by decide +kernel⟩
    (.ofList [("salt", .string "sea")])
  rw [hleaves]
  decide +kernel

end Document

end Gamebook
