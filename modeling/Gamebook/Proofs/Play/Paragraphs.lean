import Gamebook.Proofs.Play.Relevance

/-! # What is shown of a state block

The texts of a state block are run twice: one after the other to make the context of a piece of
story, and once more from that context when its paragraphs are shown. A text that only assigns shows
nothing exactly if its scripts can be run the second time as well
(`shown_eq_nil_iff_of_loadRoleplay`); that they could the first time is not enough.
-/

namespace Gamebook

/-- The context after scripts that are run one after the other, if none of them fails. -/
def Script.applyAll (context : Context) : List Script → Except Script.Failure Context
  | [] => .ok context
  | script :: rest =>
    match script.run context with
    | .error failure => .error failure
    | .ok effect => applyAll (effect.apply context) rest

namespace Node

/-- A node whose text and markup hold the given scripts, which only assign, and whose markup is
blank beside them. -/
structure Assigns (node : Node) (scripts : List Script) : Prop where
  text : (Text.spanBodies node.text.toList).map Script.ofBody = scripts.map .ok
  markup : (Text.spanBodies node.markup.toList).map Content.spanScript = scripts.map .ok
  blank : (Text.pieces node.markup.toList).all Text.Piece.isSpanOrBlank = true
  silent : ∀ script ∈ scripts, script.isAssignment = true

/-- The paragraph that a text is in a context, unless nothing of it is to be seen. -/
def paragraph (node : Node) (context : Context) (kind : ContentKind) : List ContentItem :=
  if Content.render context node.markup = "" then []
  else [⟨kind, Content.render context node.markup⟩]

/-- The paragraphs that a node adds to a piece of story. -/
def paragraphs (node : Node) (context : Context) : List ContentItem :=
  match node.tag with
  | .text => node.paragraph context .text
  | .instruction => node.paragraph context .instruction
  | _ => []

end Node

namespace Document

variable (d : Document)

/-- What is shown of a child of a piece of story. -/
def shown (context : Context) (child : d.Ref) : List ContentItem :=
  if d.takesPart context child then (d.node child).paragraphs context else []

/-- The context after several texts of a state block. -/
def contextThrough (block : List d.Ref) (context : Context) : Context :=
  (block.foldlM (fun context child => applyStateText context (d.node child)) context).value

end Document

/-! ## Nothing but blanks -/

namespace Text

/-- The body of a span. -/
def Piece.body? : Piece → Option (List Char)
  | .span body => some body
  | .literal _ => none

theorem spanBodies_eq_filterMap (text : List Char) :
    spanBodies text = (pieces text).filterMap Piece.body? := rfl

theorem trim_eq_nil_iff {cs : List Char} : trim cs = [] ↔ allBlank cs = true := by
  constructor
  · intro h
    rw [allBlank, List.all_eq_true]
    intro c hc
    by_contra hblank
    have hmem := mem_trim_of_not_isBlank (Bool.eq_false_iff.2 hblank) hc
    rw [h] at hmem
    cases hmem
  · intro h
    have hdrop : cs.dropWhile isBlank = [] :=
      List.dropWhile_eq_nil_iff.2 fun c hc => List.all_eq_true.1 h c hc
    rw [trim, hdrop]
    rfl

theorem allBlank_append (xs ys : List Char) :
    allBlank (xs ++ ys) = (allBlank xs && allBlank ys) :=
  List.all_append

end Text

namespace Content

/-- An icon is no blank, and neither are the brackets that it stands for. -/
theorem allBlank_withIcons (text : List Char) :
    Text.allBlank (withIcons text) = Text.allBlank text := by
  fun_induction withIcons text with
  | case1 => rfl
  | case2 rest name after hname ih => rfl
  | case3 rest hname ih => rfl
  | case4 c rest hc ih => exact congrArg (Text.isBlank c && ·) ih

theorem render_eq_empty_iff {context : Context} {text : String} :
    render context text = "" ↔ Text.allBlank (renderSpans context text.toList) = true := by
  rw [render, String.ofList_eq_empty_iff, Text.trim_eq_nil_iff, allBlank_withIcons]

/-- Scripts that only assign leave nothing to be seen exactly if none of them fails. -/
theorem allBlank_renderPieces_iff {context : Context} {pieces : List Text.Piece}
    {scripts : List Script} (hblank : pieces.all Text.Piece.isSpanOrBlank = true)
    (hscripts : (pieces.filterMap Text.Piece.body?).map spanScript = scripts.map .ok)
    (hsilent : ∀ script ∈ scripts, script.isAssignment = true) :
    Text.allBlank (renderPieces context pieces) = true ↔
      ∃ last, Script.applyAll context scripts = .ok last := by
  induction pieces generalizing context scripts with
  | nil =>
      rw [List.filterMap_nil, List.map_nil, eq_comm, List.map_eq_nil_iff] at hscripts
      subst hscripts
      exact iff_of_true rfl ⟨context, rfl⟩
  | cons piece rest ih =>
      rw [List.all_cons, Bool.and_eq_true] at hblank
      cases piece with
      | literal text =>
          have htext : Text.allBlank text = true := hblank.1
          rw [renderPieces, Text.allBlank_append, htext, Bool.true_and]
          exact ih hblank.2 hscripts hsilent
      | span body =>
          cases scripts with
          | nil => cases hscripts
          | cons script scripts =>
              obtain ⟨hbody, hrest⟩ := List.cons.inj hscripts
              obtain ⟨hassigns, hsilent⟩ := List.forall_mem_cons.1 hsilent
              rw [renderPieces, Script.applyAll]
              cases hrun : script.run context with
              | error failure =>
                  -- The span stays, and its braces are no blanks.
                  have hspan : renderSpan context body = (Text.braced body, context) := by
                    simp only [renderSpan, hbody, hrun]
                  rw [hspan]
                  refine iff_of_false Bool.false_ne_true ?_
                  rintro ⟨last, hlast⟩
                  cases hlast
              | ok effect =>
                  have hspan : renderSpan context body = ([], effect.apply context) := by
                    simp only [renderSpan, hbody, hrun, if_pos hassigns]
                  rw [hspan]
                  exact ih hblank.2 hrest hsilent

end Content

/-! ## The paragraphs of a piece of story -/

theorem Page.content_of_add {page next : Page} {context : Context} {node : Node}
    (h : page.add context node = .ok next) :
    next.content = page.content ++ node.paragraphs context := by
  have hcontent (kind : ContentKind) :
      (page.addContent kind (Content.render context node.markup)).content =
        page.content ++ node.paragraph context kind := by
    unfold addContent Node.paragraph
    split
    · rw [List.append_nil]
    · rfl
  unfold add at h
  unfold Node.paragraphs
  split at h
  case h_1 htag =>
    cases h
    rw [htag, hcontent]
  case h_2 htag =>
    cases h
    rw [htag, hcontent]
  case h_3 htag =>
    split at h
    · cases h
      rw [htag, List.append_nil]
      rfl
    · cases h
  case h_4 htag =>
    split at h
    · cases h
      rw [htag, List.append_nil]
    · cases h
  all_goals cases h

namespace Document

variable {d : Document}

theorem content_of_foldlM_placeOnPage {context : Context} {page last : Page} {xs : List d.Ref}
    (h : xs.foldlM (d.placeOnPage context) page = .ok last) :
    last.content = page.content ++ xs.flatMap fun child => (d.node child).paragraphs context := by
  induction xs generalizing page with
  | nil =>
      cases h
      rw [List.flatMap_nil, List.append_nil]
  | cons child rest ih =>
      rw [List.foldlM_cons] at h
      obtain ⟨next, hnext, hrest⟩ := Except.bind_eq_ok_iff.1 h
      rw [ih hrest, Page.content_of_add (Except.mapError_eq_ok_iff.1 hnext), List.flatMap_cons,
        List.append_assoc]

theorem flatMap_filter_takesPart (context : Context) (xs : List d.Ref) :
    ((xs.filter (d.takesPart context)).flatMap fun child => (d.node child).paragraphs context) =
      xs.flatMap (d.shown context) := by
  induction xs with
  | nil => rfl
  | cons child rest ih =>
      rw [List.filter_cons, List.flatMap_cons, shown, ← ih]
      split
      · rw [List.flatMap_cons]
      · rw [List.nil_append]

/-- A piece of story shows the paragraphs of its children, one after the other, in the context after
its state block. -/
theorem content_of_loadRoleplay {r : d.Ref} {context : Context} {step : RoleplayStep}
    (h : (d.loadRoleplay r context).answer = .ok step) :
    step.content = (d.children r).flatMap (d.shown step.context) := by
  rw [answer_loadRoleplay] at h
  obtain ⟨page, hpage, rfl⟩ := Except.map_eq_ok_iff.1 h
  have hcontent := content_of_foldlM_placeOnPage hpage
  rwa [Page.empty, List.nil_append, flatMap_filter_takesPart] at hcontent

/-! ## Running a text twice -/

theorem value_foldlM_applyStateSpan {context last : Context} {bodies : List (List Char)}
    {scripts : List Script} (hscripts : bodies.map Script.ofBody = scripts.map .ok)
    (hsilent : ∀ script ∈ scripts, script.isAssignment = true)
    (h : Script.applyAll context scripts = .ok last) :
    (bodies.foldlM applyStateSpan context).value = last := by
  induction bodies generalizing context scripts with
  | nil =>
      rw [List.map_nil, eq_comm, List.map_eq_nil_iff] at hscripts
      subst hscripts
      cases h
      rfl
  | cons body rest ih =>
      cases scripts with
      | nil => cases hscripts
      | cons script scripts =>
          obtain ⟨hbody, hrest⟩ := List.cons.inj hscripts
          obtain ⟨hassigns, hsilent⟩ := List.forall_mem_cons.1 hsilent
          rw [Script.applyAll] at h
          cases hrun : script.run context with
          | error failure =>
              rw [hrun] at h
              cases h
          | ok effect =>
              rw [hrun] at h
              have hspan : applyStateSpan context body = pure (effect.apply context) := by
                simp only [applyStateSpan, hbody, hrun, if_pos hassigns]
              rw [List.foldlM_cons, hspan, pure_bind]
              exact ih hrest hsilent h

/-- A text of a state block that takes part and whose scripts can be run has run all of them. -/
theorem contextThrough_append {before : List d.Ref} {child : d.Ref} {context last : Context}
    {scripts : List Script} (hassigns : (d.node child).Assigns scripts)
    (hpart : d.takesPart (d.contextThrough before context) child = true)
    (h : Script.applyAll (d.contextThrough before context) scripts = .ok last) :
    d.contextThrough (before ++ [child]) context = last := by
  have hspans := value_foldlM_applyStateSpan hassigns.text hassigns.silent h
  have hstep : d.contextThrough (before ++ [child]) context =
      (applyStateText (d.contextThrough before context) (d.node child)).value := by
    rw [contextThrough, Logged.value_foldlM, List.foldl_append, contextThrough, Logged.value_foldlM]
    rfl
  rw [hstep, applyStateText, Logged.value_bind, Logged.value_ite]
  change (if d.takesPart (d.contextThrough before context) child = true then _ else _) = last
  rw [if_pos hpart]
  exact hspans

/-- Scripts that can be run in one context can be run in another that agrees with it on the
variables that they read. -/
theorem exists_applyAll_congr {names : String → Prop} {a b : Context}
    (h : Context.AgreeOn names a b) {scripts : List Script}
    (hreads : ∀ script ∈ scripts, ∀ name ∈ script.reads, names name)
    (hrun : ∃ last, Script.applyAll a scripts = .ok last) :
    ∃ last, Script.applyAll b scripts = .ok last := by
  induction scripts generalizing a b with
  | nil => exact ⟨b, rfl⟩
  | cons script rest ih =>
      obtain ⟨hfirst, hrest⟩ := List.forall_mem_cons.1 hreads
      rw [Script.applyAll, Script.run_congr h script hfirst] at hrun
      rw [Script.applyAll]
      cases hb : script.run b with
      | error failure =>
          rw [hb] at hrun
          obtain ⟨last, hlast⟩ := hrun
          cases hlast
      | ok effect =>
          rw [hb] at hrun
          exact ih (Script.Effect.agreeOn_apply h effect) hrest hrun

theorem shown_eq_nil_iff {child : d.Ref} {context : Context} {scripts : List Script}
    (htag : d.tag child = .text) (hassigns : (d.node child).Assigns scripts) :
    d.shown context child = [] ↔
      (d.takesPart context child = true →
        ∃ last, Script.applyAll context scripts = .ok last) := by
  have hmarkup := hassigns.markup
  rw [Text.spanBodies_eq_filterMap] at hmarkup
  have hempty : Content.render context (d.node child).markup = "" ↔
      ∃ last, Script.applyAll context scripts = .ok last := by
    rw [Content.render_eq_empty_iff, Content.renderSpans]
    exact Content.allBlank_renderPieces_iff hassigns.blank hmarkup hassigns.silent
  have htag' : (d.node child).tag = .text := htag
  rw [← hempty, shown, Node.paragraphs, htag']
  cases d.takesPart context child with
  | false => simp
  | true => simp [Node.paragraph]

/-- A text of the state block of a piece of story that only assigns is run at its place in the
block, and that it takes part there and can be run means that all its assignments are made. It is
run again in the context after the block when the piece of story is shown: nothing is shown of it
exactly if it takes no part then or can be run then as well. That is so if nothing that it reads has
another value by then. -/
theorem shown_eq_nil_iff_of_loadRoleplay {r child : d.Ref} {context : Context}
    {step : RoleplayStep} {before after : List d.Ref} {scripts : List Script}
    (h : (d.loadRoleplay r context).answer = .ok step)
    (hblock : d.stateBlock r = before ++ child :: after)
    (hassigns : (d.node child).Assigns scripts) :
    step.content = (d.children r).flatMap (d.shown step.context) ∧
    step.context = d.contextThrough (before ++ child :: after) context ∧
    (d.takesPart (d.contextThrough before context) child = true →
      ∀ last, Script.applyAll (d.contextThrough before context) scripts = .ok last →
        d.contextThrough (before ++ [child]) context = last) ∧
    (d.shown step.context child = [] ↔
      (d.takesPart step.context child = true →
        ∃ last, Script.applyAll step.context scripts = .ok last)) ∧
    (Context.AgreeOn (fun name => ∃ script ∈ scripts, name ∈ script.reads)
        (d.contextThrough before context) step.context →
      (∃ last, Script.applyAll (d.contextThrough before context) scripts = .ok last) →
        d.shown step.context child = []) := by
  have hmem : child ∈ d.stateBlock r := by
    rw [hblock]
    exact List.mem_append_right before List.mem_cons_self
  have htag : d.tag child = .text := by
    have hstate := List.mem_takeWhile_imp hmem
    rw [Node.isStateText, Bool.and_eq_true, beq_iff_eq] at hstate
    exact hstate.1
  refine ⟨content_of_loadRoleplay h, ?_, ?_, shown_eq_nil_iff htag hassigns, ?_⟩
  · rw [(choices_of_loadRoleplay h).1, ← hblock]
    rfl
  · intro hpart last hlast
    exact contextThrough_append hassigns hpart hlast
  · intro hagree hrun
    rw [shown_eq_nil_iff htag hassigns]
    intro _
    exact exists_applyAll_congr hagree
      (fun script hscript name hname => ⟨script, hscript, hname⟩) hrun

/-- A card that compares the hour with a word, and then makes the hour something else. -/
def watch : String :=
  r"<quest><roleplay><p>{{hour = 'm'}}</p><p>{{late = hour &gt; 'k'}}</p>" ++
    "<p>{{hour = true}}</p><p>Hush.</p></roleplay></quest>"

/-- The script of the second text of the watch. -/
def watchScript : Script :=
  ⟨[.assign "late" (.binary .gt (.var "hour") (.literal (.string "k")))]⟩

/-- The second text of the watch sets `late`, but it cannot be run again and is shown to the
reader. -/
theorem shown_eq_nil_iff_of_loadRoleplay_watch :
    ∃ (d : Document) (r child : d.Ref) (before after : List d.Ref) (step : RoleplayStep),
      read watch = .ok d ∧ (d.loadRoleplay r NameMap.empty).answer = .ok step ∧
      d.stateBlock r = before ++ child :: after ∧ (d.node child).Assigns [watchScript] ∧
      d.takesPart (d.contextThrough before NameMap.empty) child = true ∧
      (d.contextThrough (before ++ [child]) NameMap.empty).get? "late" = some (.boolean true) ∧
      step.content.map ContentItem.text = [r"{{late = hour &gt; 'k'}}", "Hush."] ∧
      ¬ ∃ last, Script.applyAll step.context [watchScript] = .ok last := by
  have hresult : (read watch).toOption.any (fun d => (d.ref? 1).any fun r =>
      (d.ref? 3).any fun child => (d.loadRoleplay r NameMap.empty).answer.toOption.any fun step =>
        let before := (d.ref? 2).toList
        let after := (d.ref? 4).toList
        decide (d.stateBlock r = before ++ child :: after ∧
          (Text.spanBodies (d.node child).text.toList).map Script.ofBody = [.ok watchScript] ∧
          (Text.spanBodies (d.node child).markup.toList).map Content.spanScript =
            [.ok watchScript] ∧
          (Text.pieces (d.node child).markup.toList).all Text.Piece.isSpanOrBlank = true ∧
          d.takesPart (d.contextThrough before NameMap.empty) child = true ∧
          (d.contextThrough (before ++ [child]) NameMap.empty).get? "late" =
            some (.boolean true) ∧
          step.content.map ContentItem.text =
            [r"{{late = hour &gt; 'k'}}", "Hush."] ∧
          d.shown step.context child ≠ [])) = true := by
    decide +kernel
  obtain ⟨d, hd, hresult⟩ := (Option.any_eq_true _ _).1 hresult
  obtain ⟨r, -, hresult⟩ := (Option.any_eq_true _ _).1 hresult
  obtain ⟨child, -, hresult⟩ := (Option.any_eq_true _ _).1 hresult
  obtain ⟨step, hstep, hresult⟩ := (Option.any_eq_true _ _).1 hresult
  obtain ⟨hblock, htext, hmarkup, hblank, hpart, hlate, hcontent, hshown⟩ :=
    of_decide_eq_true hresult
  have hload := Except.toOption_eq_some_iff.1 hstep
  have hassigns : (d.node child).Assigns [watchScript] := ⟨htext, hmarkup, hblank, by decide⟩
  refine ⟨d, r, child, _, _, step, Except.toOption_eq_some_iff.1 hd, hload, hblock, hassigns, hpart,
    hlate, hcontent, ?_⟩
  intro hrun
  obtain ⟨-, -, -, hiff, -⟩ := shown_eq_nil_iff_of_loadRoleplay hload hblock hassigns
  exact hshown (hiff.2 fun _ => hrun)

end Document

end Gamebook
