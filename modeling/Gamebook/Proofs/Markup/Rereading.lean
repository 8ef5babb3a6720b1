import Mathlib.Data.List.Nodup
import Gamebook.Proofs.Markup.LineEnds

/-! # Reading what was written

A balanced row of marks that is written within an element is read as children of that element,
unless a bracket has two attributes of one name. The marks of the children are the row as it settles
(`foldlM_cuts`).
-/

namespace Gamebook.Markup

/-! ## Characters -/

theorem isAllowed_of_isNameChar {c : Char} (h : isNameChar c = true) : isAllowed c = true := by
  by_contra hforbidden
  have hcode : c.toNat ∈ List.range 0x20 ++ [0xFFFE, 0xFFFF] := by
    rw [Bool.not_eq_true, isAllowed] at hforbidden
    split at hforbidden
    next hlow => exact List.mem_append_left _ (List.mem_range.2 hlow)
    next =>
      apply List.mem_append_right
      simp only [Bool.and_eq_false_iff, bne_eq_false_iff_eq] at hforbidden
      simpa using hforbidden
  rw [isNameChar, isNameStart, Text.covers_eq_false (by decide +kernel) hcode,
    Text.covers_eq_false (by decide +kernel) hcode] at h
  cases h

theorem IsLocalName.allAllowed {name : List Char} (h : IsLocalName name) : AllAllowed name :=
  fun c hc => isAllowed_of_isNameChar (h.all c hc).1

theorem allAllowed_append_iff {xs ys : List Char} :
    AllAllowed (xs ++ ys) ↔ AllAllowed xs ∧ AllAllowed ys :=
  List.forall_mem_append

theorem allAllowed_escapeTextChar {c : Char} (h : isAllowed c = true) :
    AllAllowed (Text.escapeTextChar c) := by
  rcases Text.escapeTextChar_cases c with (rfl | rfl | rfl) | ⟨-, hself⟩
  · decide
  · decide
  · decide
  · rw [hself]
    exact allAllowed_cons_iff.2 ⟨h, allAllowed_nil⟩

theorem allAllowed_attributeMarkup {pair : String × String} (hname : IsLocalName pair.1.toList)
    (hvalue : AllAllowed pair.2.toList) : AllAllowed (attributeMarkup pair) := by
  have hescaped : AllAllowed (Text.escapeAttribute pair.2.toList) := by
    intro c hc
    obtain ⟨d, hd, hc⟩ := List.mem_flatMap.1 hc
    unfold Text.escapeAttributeChar at hc
    have hquote : AllAllowed ['&', 'q', 'u', 'o', 't', ';'] := by decide
    split at hc
    · exact hquote c hc
    · exact allAllowed_escapeTextChar (hvalue d hd) c hc
  have hquote : isAllowed '"' = true := by decide
  simp only [attributeMarkup, List.cons_append, allAllowed_cons_iff, allAllowed_append_iff]
  exact ⟨by decide, ⟨⟨hname.allAllowed, by decide, hquote, allAllowed_nil⟩, hescaped⟩, hquote,
    allAllowed_nil⟩

/-- Nothing that is written for a mark is forbidden. -/
theorem allAllowed_markup {mark : Mark} (h : mark.Sound) : AllAllowed mark.markup := by
  cases mark with
  | char c => exact allAllowed_escapeTextChar h
  | bracket b =>
      have hinside : AllAllowed b.inside := by
        cases b with
        | opening name attributes =>
            obtain ⟨hname, hattributes⟩ := h
            refine allAllowed_append_iff.2 ⟨hname.allAllowed, ?_⟩
            intro c hc
            obtain ⟨pair, hpair, hc⟩ := List.mem_flatMap.1 hc
            obtain ⟨hlocal, -, hvalue⟩ := hattributes pair hpair
            exact allAllowed_attributeMarkup hlocal hvalue c hc
        | closing name =>
            have hname : IsLocalName name.toList := h
            exact allAllowed_cons_iff.2 ⟨by decide, hname.allAllowed⟩
      rw [Mark.markup, Bracket.markup, allAllowed_cons_iff, allAllowed_append_iff,
        allAllowed_cons_iff]
      exact ⟨by decide, hinside, by decide, allAllowed_nil⟩

theorem allAllowed_written {marks : List Mark} (h : ∀ mark ∈ marks, mark.Sound) :
    AllAllowed (written marks) := by
  intro c hc
  obtain ⟨mark, hmark, hc⟩ := List.mem_flatMap.1 hc
  exact allAllowed_markup (h mark hmark) c hc

/-! ## Attributes -/

theorem resolve_rawAttribute (pair : String × String) :
    (rawAttribute pair).resolve = .ok ⟨"", (settledPair pair).1, (settledPair pair).2⟩ := by
  rw [RawAttribute.resolve, attributeValue?, rawAttribute, units?_escapeAttribute]
  simp [settledPair, settledValue]

/-- Attributes without qualifiers are all kept. -/
theorem Declared.foldlM_add {items : List Attribute}
    (h : ∀ item ∈ items, item.qualifier = "" ∧ item.name ≠ "xmlns") (declared : Declared) :
    items.foldlM add declared = .ok ⟨declared.scope, declared.attributes ++ items⟩ := by
  induction items generalizing declared with
  | nil => simp [pure, Except.pure]
  | cons first rest ih =>
      obtain ⟨⟨hqualifier, hname⟩, hrest⟩ := List.forall_mem_cons.1 h
      have hadd : declared.add first =
          .ok { declared with attributes := declared.attributes ++ [first] } := by
        unfold add
        dsimp only
        rw [if_neg (by simp [hqualifier]), if_neg hname]
      rw [Except.foldlM_cons_of_ok hadd, ih hrest, List.append_assoc, List.singleton_append]

theorem distinct_iff {names : List (Option String × String)} :
    distinct names = true ↔ names.Nodup := by
  induction names with
  | nil => simp [distinct]
  | cons first rest ih => simp [distinct, ih]

/-- The attributes of an opening bracket are read unless two of them have the same name. -/
theorem resolveTag_rawAttribute {attributes : List (String × String)}
    (h : ∀ pair ∈ attributes, pair.1 ≠ "xmlns") (scope : Scope) (name : List Char) :
    resolveTag scope ⟨[], name⟩ (attributes.map rawAttribute) =
      if (attributes.map Prod.fst).Nodup then .ok (scope, attributes.map settledPair)
      else .error (.repeatedAttribute (String.ofList name)) := by
  generalize hplain : ((attributes.map settledPair).map fun pair =>
    (⟨"", pair.1, pair.2⟩ : Attribute)) = plain
  have hall : ∀ found ∈ plain, found.qualifier = "" ∧ found.name ≠ "xmlns" := by
    rw [← hplain, List.forall_mem_map, List.forall_mem_map]
    exact fun pair hpair => ⟨rfl, h pair hpair⟩
  have hresolve : (attributes.map rawAttribute).mapM RawAttribute.resolve = .ok plain := by
    rw [← hplain, List.mapM_map, List.map_map]
    exact Except.mapM_eq_ok_map fun pair _ => resolve_rawAttribute pair
  have hnames : plain.mapM (fun found => do
      return (← found.namespace? scope, found.name)) =
      .ok (plain.map fun found => (none, found.name)) := by
    apply Except.mapM_eq_ok_map
    intro found hfound
    have hnone : found.namespace? scope = .ok none := by
      rw [Attribute.namespace?, if_neg (by simp [(hall found hfound).1]),
        if_pos (hall found hfound).1]
    rw [hnone]
    rfl
  have hdistinct : distinct (plain.map fun found => (none, found.name)) = true ↔
      (attributes.map Prod.fst).Nodup := by
    have hinj : Function.Injective fun name : String => ((none : Option String), name) :=
      fun a b heq => (Prod.mk.inj heq).2
    rw [distinct_iff, ← List.nodup_map_iff hinj, ← hplain, List.map_map, List.map_map,
      List.map_map]
    rfl
  have hpairs : plain.map (fun found => (found.name, found.value)) =
      attributes.map settledPair := by
    rw [← hplain, List.map_map]
    exact List.map_id _
  unfold resolveTag
  dsimp only
  rw [if_neg (by decide), hresolve, Except.ok_bind, Declared.foldlM_add hall, Except.ok_bind]
  dsimp only
  rw [List.nil_append, List.nil_append, hnames, hpairs, Except.ok_bind]
  by_cases hnodup : (attributes.map Prod.fst).Nodup
  · rw [if_pos hnodup, hdistinct.2 hnodup]
    rfl
  · rw [if_neg hnodup, Bool.eq_false_iff.2 fun heq => hnodup (hdistinct.1 heq)]
    rfl

/-! ## Brackets and runs, one at a time -/

/-- The element that an opening bracket opens, with nothing in it. -/
def Open.ofOpening (name : String) (attributes : List (String × String)) (scope : Scope)
    (start : Position) : Open :=
  ⟨⟨[], name.toList⟩, attributes.map settledPair, scope, start, []⟩

theorem step_opening {name : String} {attributes : List (String × String)}
    (h : ∀ pair ∈ attributes, pair.1 ≠ "xmlns") (hdistinct : (attributes.map Prod.fst).Nodup)
    (stack : List Open) (joins : Bool) (span : Span) :
    ∃ scope, Progress.step ⟨stack, none, joins⟩ ⟨(Bracket.opening name attributes).piece, span⟩ =
      .ok ⟨.ofOpening name attributes scope span.start :: stack, none, false⟩ := by
  refine ⟨(Progress.mk stack none joins).scope, ?_⟩
  have hroot : (Progress.mk stack none joins).checkRoot = .ok () := by
    simp [Progress.checkRoot]
  have htag := resolveTag_rawAttribute h (Progress.mk stack none joins).scope name.toList
  rw [if_pos hdistinct] at htag
  rw [Progress.step, Bracket.piece]
  dsimp only
  rw [hroot, htag]
  rfl

theorem step_closing {name : String} (top : Open) (htop : top.name = ⟨[], name.toList⟩)
    (stack : List Open) (joins : Bool) (span : Span) :
    Progress.step ⟨top :: stack, none, joins⟩ ⟨(Bracket.closing name).piece, span⟩ =
      .ok (Progress.close ⟨top :: stack, none, joins⟩ stack
        (.element name top.attributes top.children.reverse ⟨top.start, span.stop⟩)) := by
  rw [Progress.step, Bracket.piece]
  dsimp only
  rw [if_pos htop, String.ofList_toList]

theorem addText_false (content : String) (span : Span) (children : List Node) :
    addText false content span children = .text content span :: children := by
  unfold addText
  split <;> rfl

/-- An element whose inside is read is read as a whole. -/
theorem foldlM_element {name : String} {attributes : List (String × String)}
    (h : ∀ pair ∈ attributes, pair.1 ≠ "xmlns") (hdistinct : (attributes.map Prod.fst).Nodup)
    {opened closed : Placed} (hopened : opened.piece = (Bracket.opening name attributes).piece)
    (hclosed : closed.piece = (Bracket.closing name).piece) {within : List Placed}
    (stack : List Open) {p : List Node → Prop}
    (hwithin : ∀ scope, ∃ children joins, within.foldlM Progress.step
        ⟨.ofOpening name attributes scope opened.span.start :: stack, none, false⟩ =
      .ok ⟨{ Open.ofOpening name attributes scope opened.span.start with children } :: stack, none,
        joins⟩ ∧ p children) (joins : Bool) :
    ∃ children, p children ∧
      (opened :: (within ++ [closed])).foldlM Progress.step ⟨stack, none, joins⟩ =
        .ok (Progress.close ⟨stack, none, false⟩ stack (.element name (attributes.map settledPair)
          children.reverse ⟨opened.span.start, closed.span.stop⟩)) := by
  obtain ⟨opening, start⟩ := opened
  obtain ⟨closing, stop⟩ := closed
  subst hopened
  subst hclosed
  obtain ⟨scope, hopen⟩ := step_opening h hdistinct stack joins start
  obtain ⟨children, joins', hinside, hchildren⟩ := hwithin scope
  have hclose := step_closing
    { Open.ofOpening name attributes scope start.start with children } rfl stack joins' stop
  refine ⟨children, hchildren, ?_⟩
  rw [Except.foldlM_cons_of_ok hopen, Except.foldlM_append_of_ok hinside,
    Except.foldlM_cons_of_ok hclose]
  cases stack <;> rfl

variable {placed : List Placed} (top : Open) (base : List Open)

/-- A run of characters is read as a text of its own. -/
theorem foldlM_run {run : List Char} (hplaced : placed.map Placed.piece = runPieces run) :
    ∃ children joins, placed.foldlM Progress.step ⟨top :: base, none, false⟩ =
        .ok ⟨{ top with children } :: base, none, joins⟩ ∧
      marksAll children.reverse =
        marksAll top.children.reverse ++ (settledFrom false run).map .char := by
  unfold runPieces at hplaced
  split at hplaced
  next hrun =>
    subst hrun
    cases List.map_eq_nil_iff.1 hplaced
    exact ⟨top.children, false, rfl, by simp [settledFrom, textChars]⟩
  next hrun =>
    obtain ⟨first, rest, rfl, hfirst, hrest⟩ := List.map_eq_cons_iff.1 hplaced
    cases List.map_eq_nil_iff.1 hrest
    have hcontent : textContent? (Text.escapeText run) =
        some (String.ofList (settledFrom false run)) := by
      rw [textContent?, units?_escapeText]
      rfl
    refine ⟨.text (String.ofList (settledFrom false run)) first.span :: top.children, true, ?_, ?_⟩
    · have hstep : Progress.step ⟨top :: base, none, false⟩ first =
          Progress.text ⟨top :: base, none, false⟩ (String.ofList (settledFrom false run))
            first.span := by
        rw [Progress.step, hfirst]
        dsimp only
        rw [hcontent, if_neg (by simp)]
      rw [List.foldlM_cons, hstep, Progress.text]
      dsimp only
      rw [addText_false, Except.ok_bind]
      rfl
    · simp [marksAll_append, marksAll, Node.marks]

/-! ## Whole rows -/

theorem settled_append_bracket (run : List Char) (xs ys : List Mark) (b : Bracket) :
    settled run (xs ++ .bracket b :: ys) =
      settled run xs ++ .bracket b.settled :: settled [] ys := by
  induction xs generalizing run with
  | nil => rfl
  | cons first rest ih =>
      cases first with
      | char c => rw [List.cons_append, settled, settled, ih]
      | bracket other =>
          rw [List.cons_append, settled, settled, ih]
          simp

/-- A row in which no opening bracket has two attributes of the same name. -/
def NamesDistinct (marks : List Mark) : Prop :=
  ∀ mark ∈ marks, (mark.attributes.map Prod.fst).Nodup

instance (marks : List Mark) : Decidable (NamesDistinct marks) :=
  inferInstanceAs (Decidable (∀ mark ∈ marks, (mark.attributes.map Prod.fst).Nodup))

theorem namesDistinct_iff {marks : List Mark} :
    NamesDistinct marks ↔ ∀ name attributes, .bracket (.opening name attributes) ∈ marks →
      (attributes.map Prod.fst).Nodup := by
  constructor
  · intro h name attributes hmem
    exact h _ hmem
  · intro h mark hmark
    cases mark with
    | char c => exact List.nodup_nil
    | bracket b =>
        cases b with
        | opening name attributes => exact h name attributes hmark
        | closing name => exact List.nodup_nil

/-- A balanced row is read as children of the innermost open element. Their marks are the row as it
settles. -/
theorem foldlM_cuts {marks : List Mark} (hbalanced : Balanced marks)
    (hsound : ∀ mark ∈ marks, mark.Sound) (hdistinct : NamesDistinct marks) {run : List Char}
    (hplaced : placed.map Placed.piece = cuts run marks) :
    ∃ children joins, placed.foldlM Progress.step ⟨top :: base, none, false⟩ =
        .ok ⟨{ top with children } :: base, none, joins⟩ ∧
      marksAll children.reverse = marksAll top.children.reverse ++ settled run marks := by
  induction hbalanced generalizing run placed top base with
  | nil => exact foldlM_run top base hplaced
  | char c _ ih =>
      exact ih top base (List.forall_mem_cons.1 hsound).2 (List.forall_mem_cons.1 hdistinct).2
        hplaced
  | @element inner rest name attributes _ _ ihinner ihrest =>
      rw [cuts, cuts_append_bracket] at hplaced
      obtain ⟨before, more, rfl, hbefore, hmore⟩ := List.map_eq_append_iff.1 hplaced
      obtain ⟨opened, more, rfl, hopened, hmore⟩ := List.map_eq_cons_iff.1 hmore
      obtain ⟨within, more, rfl, hwithin, hmore⟩ := List.map_eq_append_iff.1 hmore
      obtain ⟨closed, after, rfl, hclosed, hafter⟩ := List.map_eq_cons_iff.1 hmore
      obtain ⟨hopening, hsound⟩ := List.forall_mem_cons.1 hsound
      obtain ⟨hinner, hsound⟩ := List.forall_mem_append.1 hsound
      obtain ⟨hnames, hdistinct⟩ := List.forall_mem_cons.1 hdistinct
      obtain ⟨hinnerNames, hdistinct⟩ := List.forall_mem_append.1 hdistinct
      -- First the run before the element, then the element, then the rest.
      obtain ⟨children, joins, hrun, hmarks⟩ := foldlM_run top base hbefore
      obtain ⟨inside, hinside, helement⟩ := foldlM_element
        (fun pair hpair => (hopening.2 pair hpair).2.1) hnames hopened hclosed
        ({ top with children } :: base)
        (p := fun inside => marksAll inside.reverse = settled [] inner)
        (fun scope => ihinner _ _ hinner hinnerNames hwithin) joins
      obtain ⟨last, joins', hlast, hrestMarks⟩ := ihrest
        ⟨top.name, top.attributes, top.scope, top.start, .element name (attributes.map settledPair)
          inside.reverse ⟨opened.span.start, closed.span.stop⟩ :: children⟩ base
        (List.forall_mem_cons.1 hsound).2 (List.forall_mem_cons.1 hdistinct).2 hafter
      refine ⟨last, joins', ?_, ?_⟩
      · have hpieces : before ++ opened :: (within ++ closed :: after) =
            before ++ ((opened :: (within ++ [closed])) ++ after) := by
          simp
        rw [hpieces, Except.foldlM_append_of_ok hrun, Except.foldlM_append_of_ok helement]
        exact hlast
      · rw [hrestMarks, settled, settled_append_bracket]
        simp [marksAll_append, marksAll, Node.marks, hmarks, hinside, Bracket.settled]

end Gamebook.Markup
