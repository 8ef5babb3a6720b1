import Gamebook.Proofs.Play.Combat
import Gamebook.Proofs.Play.GoingOn
import Gamebook.Proofs.Script.Spans
import Gamebook.Proofs.Script.Variables

/-! # What a card depends on

A card depends on the variables that are read by the conditions, the scripts and the labels of its
nodes and by the conditions of the nodes behind it. In two contexts that agree on these a card is
shown alike or fails alike, and play goes on from it with contexts that agree wherever they did
(`alike_of_agreeOn`).
-/

namespace Gamebook

open Context

/-! ## The variables of a node -/

/-- The variables that the script in the body of a span reads. What is no script reads none. -/
def Script.readsOf (body : List Char) : List String :=
  match ofBody body with
  | .ok script => script.reads
  | .error _ => []

/-- The variables that the spans of a text read. -/
def Text.reads (text : List Char) : List String :=
  (spanBodies text).flatMap Script.readsOf

/-- The variables that the spans of markup read. -/
def Content.reads (markup : List Char) : List String :=
  (Text.spanBodies markup).flatMap fun body => Script.readsOf (Text.decodeEntities body)

namespace Node

/-- The variables that the condition of a node reads. -/
def conditionReads (node : Node) : List String :=
  match node.condition? with
  | none => []
  | some condition =>
    match Script.Expr.ofText condition.toList with
    | .ok expr => expr.reads
    | .error _ => []

/-- The variables that the label of a choice reads. -/
def labelReads (node : Node) : List String :=
  if node.tag = .choice then Content.reads ((node.attribute? "text").getD "").toList else []

/-- The variables that a node reads, be it to take part, to be run or to be shown. -/
def reads (node : Node) : List String :=
  node.conditionReads ++ Text.reads node.text.toList ++
    Content.reads node.markup.toList ++ node.labelReads

theorem mem_reads {node : Node} {name : String} :
    name ∈ node.reads ↔ name ∈ node.conditionReads ∨ name ∈ Text.reads node.text.toList ∨
      name ∈ Content.reads node.markup.toList ∨ name ∈ node.labelReads := by
  simp only [reads, List.mem_append, or_assoc]

end Node

/-- The variables that a card depends on. -/
def Document.relevant (d : Document) (r : d.Ref) : List String :=
  (d.children r).flatMap (fun child => (d.node child).reads) ++
    (d.followers r).flatMap fun follower => (d.node follower).conditionReads

/-! ## Nodes in contexts that agree -/

variable {names : String → Prop} {a b : Context}

theorem Context.AgreeOn.foldl {α : Type} {f : Context → α → Context} {xs : List α}
    (hstep : ∀ x ∈ xs, ∀ a b, AgreeOn names a b → AgreeOn names (f a x) (f b x))
    (h : AgreeOn names a b) : AgreeOn names (xs.foldl f a) (xs.foldl f b) := by
  induction xs generalizing a b with
  | nil => exact h
  | cons first rest ih =>
      apply ih fun x hx => hstep x (List.mem_cons_of_mem _ hx)
      exact hstep first List.mem_cons_self a b h

theorem conditionValue_congr (h : AgreeOn names a b) {condition : String}
    (hreads : ∀ expr, Script.Expr.ofText condition.toList = .ok expr →
      ∀ name ∈ expr.reads, names name) :
    conditionValue condition a = conditionValue condition b := by
  unfold conditionValue
  cases hexpr : Script.Expr.ofText condition.toList with
  | error failure => rfl
  | ok expr => exact Script.Expr.eval_congr h expr (hreads expr hexpr)

/-- Whether a node takes part depends on the variables of its condition alone. -/
theorem Node.isEnabled_congr (h : AgreeOn names a b) (node : Node)
    (hreads : ∀ name ∈ node.conditionReads, names name) :
    node.isEnabled a = node.isEnabled b := by
  unfold isEnabled
  cases hcondition : node.condition? with
  | none => rfl
  | some condition =>
      dsimp only
      rw [conditionValue_congr h]
      intro expr hexpr name hname
      apply hreads
      simp only [conditionReads, hcondition, hexpr, hname]

/-- A script that is the same does the same in contexts that agree on what it reads. -/
theorem run_congr_of_ofBody (h : AgreeOn names a b) {body : List Char} {script : Script}
    (hbody : Script.ofBody body = .ok script)
    (hreads : ∀ name ∈ Script.readsOf body, names name) : script.run a = script.run b := by
  apply Script.run_congr h
  intro name hname
  apply hreads
  simp only [Script.readsOf, hbody, hname]

theorem agreeOn_applyStateSpan (h : AgreeOn names a b) (body : List Char)
    (hreads : ∀ name ∈ Script.readsOf body, names name) :
    AgreeOn names (applyStateSpan a body).value (applyStateSpan b body).value := by
  unfold applyStateSpan
  cases hbody : Script.ofBody body with
  | error failure => exact h
  | ok script =>
      dsimp only
      rw [run_congr_of_ofBody h hbody hreads]
      split
      · cases script.run b with
        | error failure => exact h
        | ok effect => exact Script.Effect.agreeOn_apply h effect
      · exact h

theorem agreeOn_applyStateText (h : AgreeOn names a b) (node : Node)
    (hreads : ∀ name ∈ node.reads, names name) :
    AgreeOn names (applyStateText a node).value (applyStateText b node).value := by
  have hcondition : ∀ name ∈ node.conditionReads, names name :=
    fun name hname => hreads name (Node.mem_reads.2 (Or.inl hname))
  unfold applyStateText
  rw [Logged.value_bind, Logged.value_bind, Node.isEnabled_congr h node hcondition,
    Logged.value_ite, Logged.value_ite, Logged.value_foldlM, Logged.value_foldlM]
  split
  · refine AgreeOn.foldl ?_ h
    intro body hbody a b hab
    apply agreeOn_applyStateSpan hab
    intro name hname
    have htext : name ∈ Text.reads node.text.toList := List.mem_flatMap.2 ⟨body, hbody, hname⟩
    exact hreads name (Node.mem_reads.2 (Or.inr (Or.inl htext)))
  · exact h

namespace Content

/-- What replaces a span is the same, and so are the assignments that it makes. -/
theorem renderSpan_congr (h : AgreeOn names a b) (body : List Char)
    (hreads : ∀ name ∈ Script.readsOf (Text.decodeEntities body), names name) :
    (renderSpan a body).1 = (renderSpan b body).1 ∧
      AgreeOn names (renderSpan a body).2 (renderSpan b body).2 := by
  unfold renderSpan
  cases hbody : spanScript body with
  | error failure => exact ⟨rfl, h⟩
  | ok script =>
      dsimp only
      rw [run_congr_of_ofBody h hbody hreads]
      cases script.run b with
      | error failure => exact ⟨rfl, h⟩
      | ok effect => exact ⟨rfl, Script.Effect.agreeOn_apply h effect⟩

theorem renderPieces_congr (h : AgreeOn names a b) (pieces : List Text.Piece)
    (hreads : ∀ body, .span body ∈ pieces →
      ∀ name ∈ Script.readsOf (Text.decodeEntities body), names name) :
    renderPieces a pieces = renderPieces b pieces := by
  induction pieces generalizing a b with
  | nil => rfl
  | cons first rest ih =>
      have hrest := fun body hbody => hreads body (List.mem_cons_of_mem first hbody)
      cases first with
      | literal text => rw [renderPieces, renderPieces, ih h hrest]
      | span body =>
          obtain ⟨htext, hnext⟩ := renderSpan_congr h body (hreads body List.mem_cons_self)
          rw [renderPieces, renderPieces]
          dsimp only
          rw [htext, ih hnext hrest]

/-- What the reader sees of a text depends on the variables that its spans read alone. -/
theorem render_congr (h : AgreeOn names a b) (text : String)
    (hreads : ∀ name ∈ reads text.toList, names name) : render a text = render b text := by
  unfold render renderSpans
  rw [renderPieces_congr h]
  intro body hbody name hname
  apply hreads
  refine List.mem_flatMap.2 ⟨body, ?_, hname⟩
  exact List.mem_filterMap.2 ⟨.span body, hbody, rfl⟩

end Content

/-- The name of an enemy depends on the variables that its line reads alone. -/
theorem enemyName_congr (h : AgreeOn names a b) (line : String)
    (hreads : ∀ name ∈ Text.reads line.toList, names name) :
    enemyName line a = enemyName line b := by
  unfold enemyName
  dsimp only
  split
  next => rfl
  next script hscript =>
    obtain ⟨body, hbodies, hbody⟩ := Script.spanBodies_of_ofSpan? hscript
    rw [Text.spanBodies_trim, Text.spanBodies_trim] at hbodies
    rw [run_congr_of_ofBody h hbody]
    intro name hname
    apply hreads
    rw [Text.reads, hbodies]
    simpa using hname

theorem Page.add_congr (h : AgreeOn names a b) (page : Page) (node : Node)
    (hreads : ∀ name ∈ node.reads, names name) : page.add a node = page.add b node := by
  have hmarkup : Content.render a node.markup = Content.render b node.markup := by
    apply Content.render_congr h
    exact fun name hname => hreads name (Node.mem_reads.2 (Or.inr (Or.inr (Or.inl hname))))
  unfold add
  rw [hmarkup]
  split
  case h_3 htag =>
    split
    next text htext =>
      have hlabel : node.attribute? "text" = some text := (Option.filter_eq_some_iff.1 htext).1
      rw [Content.render_congr h]
      intro name hname
      apply hreads name (Node.mem_reads.2 (Or.inr (Or.inr (Or.inr ?_))))
      simpa only [Node.labelReads, htag, hlabel, if_true, Option.getD_some] using hname
    next => rfl
  all_goals rfl

theorem Roster.add_congr (h : AgreeOn names a b) (roster : Roster) (table : Encounters)
    (isState : Bool) (node : Node) (hreads : ∀ name ∈ node.reads, names name) :
    roster.add table a isState node = roster.add table b isState node := by
  have henemy : table.enemy node.text a = table.enemy node.text b := by
    unfold Encounters.enemy
    rw [enemyName_congr h]
    exact fun name hname => hreads name (Node.mem_reads.2 (Or.inr (Or.inl hname)))
  unfold add
  rw [henemy]

namespace Document

variable {d : Document}

/-! ## Cards in contexts that agree -/

/-- Two answers are the same fault, or they are steps that are related. -/
inductive Alike {α : Type} (related : α → α → Prop) : Except Fault α → Except Fault α → Prop
  | failing (fault : Fault) : Alike related (.error fault) (.error fault)
  | shown {s t : α} (h : related s t) : Alike related (.ok s) (.ok t)

theorem takesPart_congr (h : AgreeOn names a b) (r : d.Ref)
    (hreads : ∀ name ∈ (d.node r).conditionReads, names name) :
    d.takesPart a r = d.takesPart b r := by
  rw [takesPart, takesPart, isEnabled, isEnabled, Node.isEnabled_congr h (d.node r) hreads]

/-- The contexts within a card agree wherever those before it do. -/
theorem agreeOn_contextWithin (h : AgreeOn names a b) (r : d.Ref)
    (hreads : ∀ child ∈ d.children r, ∀ name ∈ (d.node child).reads, names name) :
    AgreeOn names (d.contextWithin r a) (d.contextWithin r b) := by
  rw [contextWithin, contextWithin, updateContext, updateContext, Logged.value_foldlM,
    Logged.value_foldlM]
  refine AgreeOn.foldl ?_ h
  intro child hchild a b hab
  exact agreeOn_applyStateText hab (d.node child)
    (hreads child ((List.takeWhile_subset _) hchild))

/-- A fold whose steps are the same for every element of the list. -/
theorem foldlM_congr_of_mem {α β : Type} {f g : β → α → Except Fault β} {xs : List α} (start : β)
    (hstep : ∀ x ∈ xs, ∀ b, f b x = g b x) : xs.foldlM f start = xs.foldlM g start := by
  induction xs generalizing start with
  | nil => rfl
  | cons first rest ih =>
      rw [List.foldlM_cons, List.foldlM_cons, hstep first List.mem_cons_self]
      congr 1
      funext next
      exact ih next fun x hx => hstep x (List.mem_cons_of_mem _ hx)

theorem filter_takesPart_congr (h : AgreeOn names a b) {refs : List d.Ref}
    (hreads : ∀ r ∈ refs, ∀ name ∈ (d.node r).conditionReads, names name) :
    refs.filter (d.takesPart a) = refs.filter (d.takesPart b) :=
  List.filter_congr fun r hr => takesPart_congr h r (hreads r hr)

theorem endsWithin_congr (h : AgreeOn names a b) (r : d.Ref)
    (hreads : ∀ child ∈ d.children r, ∀ name ∈ (d.node child).reads, names name) :
    d.endsWithin r a = d.endsWithin r b := by
  unfold endsWithin
  rw [Bool.eq_iff_iff, List.any_eq_true, List.any_eq_true]
  apply exists_congr
  intro child
  apply and_congr_right
  intro hchild
  rw [takesPart_congr h child fun name hname =>
    hreads child hchild name (Node.mem_reads.2 (Or.inl hname))]

theorem endAhead_congr (h : AgreeOn names a b) (r : d.Ref)
    (hreads : ∀ follower ∈ d.followers r, ∀ name ∈ (d.node follower).conditionReads,
      names name) : d.endAhead r a = d.endAhead r b := by
  rw [endAhead, endAhead, ← List.head?_filter, ← List.head?_filter,
    filter_takesPart_congr h hreads]

/-- What a piece of story answers, apart from the context within it. -/
theorem answer_loadRoleplay_congr (h : AgreeOn names a b) (r : d.Ref)
    (hchildren : ∀ child ∈ d.children r, ∀ name ∈ (d.node child).reads, names name)
    (hfollowers : ∀ follower ∈ d.followers r, ∀ name ∈ (d.node follower).conditionReads,
      names name) :
    (d.loadRoleplay r b).answer =
      (d.loadRoleplay r a).answer.map fun step =>
        { step with context := d.contextWithin r b } := by
  have hwithin := agreeOn_contextWithin h r hchildren
  have hcollect : ((d.children r).filter (d.takesPart (d.contextWithin r a))).foldlM
      (d.placeOnPage (d.contextWithin r a)) Page.empty =
        ((d.children r).filter (d.takesPart (d.contextWithin r b))).foldlM
          (d.placeOnPage (d.contextWithin r b)) Page.empty := by
    rw [filter_takesPart_congr hwithin fun child hchild name hname =>
      hchildren child hchild name (Node.mem_reads.2 (Or.inl hname))]
    apply foldlM_congr_of_mem
    intro child hchild page
    rw [placeOnPage, placeOnPage, Page.add_congr hwithin page (d.node child)
      (hchildren child (List.mem_filter.1 hchild).1)]
  have hoffered (page : Page) : (d.offered r a (d.contextWithin r a) page).value =
      (d.offered r b (d.contextWithin r b) page).value := by
    rw [offered, offered, Logged.value_ite, Logged.value_ite, Logged.value_bind, Logged.value_bind,
      value_endsAfter, value_endsAfter, endsWithin_congr hwithin r hchildren,
      endAhead_congr h r hfollowers]
  rw [answer_loadRoleplay, answer_loadRoleplay, hcollect]
  cases ((d.children r).filter (d.takesPart (d.contextWithin r b))).foldlM
      (d.placeOnPage (d.contextWithin r b)) Page.empty with
  | error fault => rfl
  | ok page =>
      simp only [Except.map, hoffered]

/-- What a combat answers, apart from the context that it was entered with. -/
theorem answer_loadCombat_congr (h : AgreeOn names a b) (table : Encounters) (r : d.Ref)
    (hchildren : ∀ child ∈ d.children r, ∀ name ∈ (d.node child).reads, names name) :
    (d.loadCombat table r b).answer =
      (d.loadCombat table r a).answer.map fun step => { step with context := b } := by
  have hwithin := agreeOn_contextWithin h r hchildren
  have henlist : (d.children r).zipIdx.foldlM
      (d.enlist table (d.contextWithin r a) (d.stateBlock r).length) Roster.empty =
        (d.children r).zipIdx.foldlM
          (d.enlist table (d.contextWithin r b) (d.stateBlock r).length) Roster.empty := by
    apply foldlM_congr_of_mem
    intro child hchild roster
    have hreads := hchildren child.1 (List.fst_mem_of_mem_zipIdx hchild)
    rw [enlist, enlist, Roster.add_congr hwithin roster table _ (d.node child.1) hreads,
      takesPart_congr hwithin child.1 fun name hname =>
        hreads name (Node.mem_reads.2 (Or.inl hname))]
  rw [answer_loadCombat, answer_loadCombat, henlist]
  cases (d.children r).zipIdx.foldlM
      (d.enlist table (d.contextWithin r b) (d.stateBlock r).length) Roster.empty with
  | error fault => rfl
  | ok roster =>
      simp only [Except.bind]
      cases roster.lack? <;> rfl

/-- A card comes out alike in two contexts that agree on the variables that it depends on: it fails
with the same fault, or shows the same. What else the contexts differ in makes no difference, and
the contexts after it agree wherever they did before it. -/
theorem alike_of_agreeOn (table : Encounters) (r : d.Ref)
    (h : AgreeOn (fun name => name ∈ d.relevant r) a b) :
    Alike (fun s t => s.title = t.title ∧ s.icon = t.icon ∧ s.content = t.content ∧
        s.choices = t.choices ∧
        AgreeOn (fun name => a.get? name = b.get? name) s.context t.context)
      (d.loadRoleplay r a).answer (d.loadRoleplay r b).answer ∧
    Alike (fun s t => s.icon = t.icon ∧ s.enemies = t.enemies ∧
        AgreeOn (fun name => a.get? name = b.get? name) s.context t.context)
      (d.loadCombat table r a).answer (d.loadCombat table r b).answer := by
  have hchildren : ∀ child ∈ d.children r, ∀ name ∈ (d.node child).reads,
      a.get? name = b.get? name := by
    intro child hchild name hname
    exact h name (List.mem_append_left _ (List.mem_flatMap.2 ⟨child, hchild, hname⟩))
  have hfollowers : ∀ follower ∈ d.followers r, ∀ name ∈ (d.node follower).conditionReads,
      a.get? name = b.get? name := by
    intro follower hfollower name hname
    exact h name (List.mem_append_right _ (List.mem_flatMap.2 ⟨follower, hfollower, hname⟩))
  -- The contexts agree on exactly those names on which they do, whatever these are.
  have hself : AgreeOn (fun name => a.get? name = b.get? name) a b := fun name hname => hname
  have hroleplay := answer_loadRoleplay_congr hself r hchildren hfollowers
  have hcombat := answer_loadCombat_congr hself table r hchildren
  constructor
  · rw [hroleplay]
    cases hanswer : (d.loadRoleplay r a).answer with
    | error fault => exact Alike.failing fault
    | ok step =>
        refine Alike.shown ⟨rfl, rfl, rfl, rfl, ?_⟩
        rw [(choices_of_loadRoleplay hanswer).1]
        exact agreeOn_contextWithin hself r hchildren
  · rw [hcombat]
    cases hanswer : (d.loadCombat table r a).answer with
    | error fault => exact Alike.failing fault
    | ok step =>
        refine Alike.shown ⟨rfl, rfl, ?_⟩
        rw [context_of_loadCombat hanswer]
        exact hself

/-- A card that sets `seen`, tells the name of the reader and is followed by an end for the
brave. -/
def ruin : Document :=
  ofOutline <| .branch (.bare .quest)
    [.branch (.bare .roleplay)
      [.branch { Node.bare .text with text := r"{{seen = 'it'}}" } [],
        .branch { Node.bare .text with markup := "Beware, {{name}}!" } []],
      .branch { Node.bare .trigger with
        attributes := NameMap.ofList [("condition", "brave")], text := "end" } []]

/-- The card of the ruin. -/
def ruinCard : ruin.Ref := ⟨1, by decide +kernel⟩

/-- A brave reader. -/
def poorReader : Context :=
  NameMap.ofList [("brave", .boolean true), ("name", .string "Ada")]

/-- What the reader owns makes no difference in the ruin, and neither does what the card itself
sets. -/
theorem alike_of_agreeOn_ruin :
    ruin.relevant ruinCard = ["name", "brave"] ∧
      ∃ s t, (ruin.loadRoleplay ruinCard poorReader).answer = .ok s ∧
        (ruin.loadRoleplay ruinCard ((NameMap.insert poorReader "gold" (.string "much")).insert
          "seen" (.string "no"))).answer = .ok t ∧
        t.content = [⟨.text, "Beware, Ada!"⟩] ∧ t.choices = [⟨"End", 0⟩] := by
  have hrelevant : ruin.relevant ruinCard = ["name", "brave"] := by
    decide +kernel
  have hpoor : (ruin.loadRoleplay ruinCard poorReader).answer.toOption.map (fun step =>
      (step.content, step.choices)) = some ([⟨.text, "Beware, Ada!"⟩], [⟨"End", 0⟩]) := by
    decide +kernel
  have hagree : AgreeOn (fun name => name ∈ ruin.relevant ruinCard) poorReader
      ((NameMap.insert poorReader "gold" (.string "much")).insert "seen" (.string "no")) := by
    rw [hrelevant]
    intro name hname
    have hne : name ≠ "gold" ∧ name ≠ "seen" := by
      constructor <;> rintro rfl <;> simp at hname
    rw [NameMap.get?_insert_of_ne hne.2, NameMap.get?_insert_of_ne hne.1]
  have halike := (alike_of_agreeOn Encounters.bundled ruinCard hagree).1
  refine ⟨hrelevant, ?_⟩
  cases hs : (ruin.loadRoleplay ruinCard poorReader).answer with
  | error fault =>
      rw [hs] at hpoor
      cases hpoor
  | ok s =>
      rw [hs] at hpoor halike
      obtain ⟨hcontent, hchoices⟩ := Prod.mk.inj (Option.some.inj hpoor)
      generalize (ruin.loadRoleplay ruinCard _).answer = other at halike ⊢
      cases halike with
      | shown hshown =>
          obtain ⟨-, -, hsame, hoffered, -⟩ := hshown
          exact ⟨s, _, rfl, rfl, hsame ▸ hcontent, hoffered ▸ hchoices⟩

end Document

end Gamebook
