import Gamebook.Proofs.Play.Ways

/-! # What a piece of story offers

A piece of story loads exactly if each of its nodes that take part finds its place on the page.
`choices_of_loadRoleplay` gives the choices that are offered: those that take part, numbered in
order, or else the one to go on.
-/

namespace Gamebook

/-- A choice adds itself under the next number, and nothing else changes the choices of a page. -/
theorem Page.choices_of_add {page next : Page} {context : Context} {node : Node}
    (h : page.add context node = .ok next) :
    (node.tag = .choice ∧ ∃ text, node.attribute? "text" = some text ∧
      next.choices = page.choices ++ [⟨Content.render context text, page.choices.length⟩]) ∨
    (node.tag ≠ .choice ∧ next.choices = page.choices) := by
  -- Texts and instructions only add to the content.
  have hcontent (kind : ContentKind) (text : String) :
      (page.addContent kind text).choices = page.choices := by
    unfold addContent
    split <;> rfl
  unfold add at h
  split at h
  case h_1 htag =>
    cases h
    exact Or.inr ⟨by simp [htag], hcontent _ _⟩
  case h_2 htag =>
    cases h
    exact Or.inr ⟨by simp [htag], hcontent _ _⟩
  case h_3 htag =>
    split at h
    next text htext =>
      cases h
      exact Or.inl ⟨htag, text, (Option.filter_eq_some_iff.1 htext).1, rfl⟩
    next => cases h
  case h_4 htag =>
    split at h
    · cases h
      exact Or.inr ⟨by simp [htag], rfl⟩
    · cases h
  all_goals cases h

namespace Document

variable {d : Document}

/-- Puts a child of a piece of story in its place on the page. -/
def placeOnPage (d : Document) (context : Context) (page : Page) (child : d.Ref) :
    Except Fault Page :=
  (page.add context (d.node child)).mapError (d.faultAt child)

/-- What a choice says. -/
def label (d : Document) (context : Context) (choice : d.Ref) : String :=
  Content.render context (((d.node choice).attribute? "text").getD "")

theorem answer_addToPage (context : Context) (page : Page) (child : d.Ref) :
    (d.addToPage context page child).answer =
      if d.takesPart context child then d.placeOnPage context page child else .ok page := by
  rw [addToPage, Play.answer_bind, Play.answer_liftM, value_isEnabled]
  cases d.takesPart context child with
  | false => rfl
  | true =>
      simp only [Except.bind, if_true, placeOnPage]
      cases page.add context (d.node child) <;> rfl

/-- A piece of story collects those of its children that take part after its state block. -/
theorem answer_loadRoleplay (r : d.Ref) (context : Context) :
    (d.loadRoleplay r context).answer =
      (((d.children r).filter (d.takesPart (d.contextWithin r context))).foldlM
        (d.placeOnPage (d.contextWithin r context)) Page.empty).map fun page =>
          ⟨(d.node r).attribute? "title", (d.node r).attribute? "icon", page.content,
            (d.offered r context (d.contextWithin r context) page).value,
            d.contextWithin r context⟩ := by
  have hfold : ((d.children r).foldlM (d.addToPage (d.contextWithin r context))
      Page.empty).answer = ((d.children r).filter (d.takesPart (d.contextWithin r context))).foldlM
        (d.placeOnPage (d.contextWithin r context)) Page.empty := by
    rw [Play.answer_foldlM, List.foldlM_filter]
    simp only [answer_addToPage]
    rfl
  simp only [loadRoleplay, Play.answer_bind, Play.answer_liftM, value_updateContext, Except.bind,
    hfold, Play.answer_write]
  cases List.foldlM (d.placeOnPage (d.contextWithin r context)) Page.empty
    ((d.children r).filter (d.takesPart (d.contextWithin r context))) <;> rfl

/-- The choices on a page are those that were there, then those among the new children with the
numbers that follow. -/
theorem choices_of_foldlM_placeOnPage {context : Context} {page last : Page} {xs : List d.Ref}
    (h : xs.foldlM (d.placeOnPage context) page = .ok last) :
    last.choices = page.choices ++
      ((xs.filter (d.tag · == .choice)).zipIdx page.choices.length).map fun choice =>
        ⟨d.label context choice.1, choice.2⟩ := by
  induction xs generalizing page with
  | nil =>
      cases h
      simp
  | cons child rest ih =>
      rw [List.foldlM_cons] at h
      cases hadd : page.add context (d.node child) with
      | error cause =>
          rw [placeOnPage, hadd] at h
          cases h
      | ok next =>
          rw [placeOnPage, hadd] at h
          have hrest := ih h
          rcases Page.choices_of_add hadd with ⟨htag, text, htext, hnext⟩ | ⟨htag, hnext⟩
          · have hlabel : d.label context child = Content.render context text := by
              rw [label, htext, Option.getD_some]
            rw [hrest, hnext, List.filter_cons_of_pos (by simp [tag, htag]), List.zipIdx_cons,
              List.map_cons, hlabel, List.length_append, List.append_assoc]
            rfl
          · rw [hrest, hnext, List.filter_cons_of_neg (by simp [tag, htag])]

/-- Every choice on a page has a text. -/
theorem attribute?_of_foldlM_placeOnPage {context : Context} {page last : Page} {xs : List d.Ref}
    (h : xs.foldlM (d.placeOnPage context) page = .ok last) {choice : d.Ref} (hmem : choice ∈ xs)
    (htag : d.tag choice = .choice) : ∃ text, (d.node choice).attribute? "text" = some text := by
  induction xs generalizing page with
  | nil => cases hmem
  | cons child rest ih =>
      rw [List.foldlM_cons] at h
      cases hadd : page.add context (d.node child) with
      | error cause =>
          rw [placeOnPage, hadd] at h
          cases h
      | ok next =>
          rw [placeOnPage, hadd] at h
          rcases List.mem_cons.1 hmem with rfl | hmem
          · rcases Page.choices_of_add hadd with ⟨-, text, htext, -⟩ | ⟨hother, -⟩
            · exact ⟨text, htext⟩
            · exact absurd htag hother
          · exact ih h hmem

theorem filter_takesPart_choice (r : d.Ref) (context : Context) :
    ((d.children r).filter (d.takesPart context)).filter (d.tag · == .choice) =
      d.choicesIn r context := by
  rw [List.filter_filter]
  rfl

/-- The choices that are offered: those that take part after the state block, each with its label
and its number, or else the one to go on. -/
theorem choices_of_loadRoleplay {r : d.Ref} {context : Context} {step : RoleplayStep}
    (h : (d.loadRoleplay r context).answer = .ok step) :
    step.context = d.contextWithin r context ∧
      step.choices = match d.choicesIn r step.context with
        | [] => [⟨goOnText (d.endsAfter r context step.context).value, 0⟩]
        | choices =>
          choices.zipIdx.map fun choice => ⟨d.label step.context choice.1, choice.2⟩ := by
  rw [answer_loadRoleplay] at h
  obtain ⟨page, hpage, rfl⟩ := Except.map_eq_ok_iff.1 h
  refine ⟨rfl, ?_⟩
  have hchoices := choices_of_foldlM_placeOnPage hpage
  rw [filter_takesPart_choice] at hchoices
  dsimp only at hchoices ⊢
  rw [offered, Logged.value_ite, hchoices]
  cases d.choicesIn r (d.contextWithin r context) with
  | nil => rfl
  | cons first rest => rfl

/-- A choice that takes part is offered at its place, with its label. -/
theorem getElem?_choices_of_loadRoleplay {r choice : d.Ref} {context : Context}
    {step : RoleplayStep} (h : (d.loadRoleplay r context).answer = .ok step) {i : Nat}
    (hchoice : (d.choicesIn r step.context)[i]? = some choice) :
    step.choices[i]? = some ⟨d.label step.context choice, i⟩ := by
  rw [(choices_of_loadRoleplay h).2]
  split
  next hnil => simp [hnil] at hchoice
  next => simp [List.getElem?_zipIdx, hchoice]

/-- Every choice that is offered has a text, which is its label. -/
theorem label_of_loadRoleplay {r : d.Ref} {context : Context} {step : RoleplayStep}
    (h : (d.loadRoleplay r context).answer = .ok step) {choice : d.Ref}
    (hmem : choice ∈ d.choicesIn r step.context) :
    ∃ text, (d.node choice).attribute? "text" = some text ∧
      d.label step.context choice = Content.render step.context text := by
  rw [answer_loadRoleplay] at h
  obtain ⟨page, hpage, rfl⟩ := Except.map_eq_ok_iff.1 h
  obtain ⟨hchild, htag, hpart⟩ := mem_choicesIn.1 hmem
  obtain ⟨text, htext⟩ :=
    attribute?_of_foldlM_placeOnPage hpage (List.mem_filter.2 ⟨hchild, hpart⟩) htag
  refine ⟨text, htext, ?_⟩
  rw [label, htext, Option.getD_some]

/-- There is always something to choose. -/
theorem length_choices_of_loadRoleplay {r : d.Ref} {context : Context} {step : RoleplayStep}
    (h : (d.loadRoleplay r context).answer = .ok step) :
    step.choices.length = max 1 (d.choicesIn r step.context).length := by
  rw [(choices_of_loadRoleplay h).2]
  cases d.choicesIn r step.context with
  | nil => rfl
  | cons first rest => simp

/-- A number beside something on offer that is not that of a choice belongs to going on, which is
offered alone. -/
theorem choicesIn_eq_nil_of_lt {r : d.Ref} {context : Context} {step : RoleplayStep}
    (h : (d.loadRoleplay r context).answer = .ok step) {index : Nat}
    (hlt : index < step.choices.length) (hnone : (d.choicesIn r step.context)[index]? = none) :
    d.choicesIn r step.context = [] := by
  have hlength := length_choices_of_loadRoleplay h
  have hle := List.getElem?_eq_none_iff.1 hnone
  exact List.eq_nil_of_length_eq_zero (by omega)

/-- The numbers beside the choices are those below their number. -/
theorem exists_index_iff_lt {r : d.Ref} {context : Context} {step : RoleplayStep}
    (h : (d.loadRoleplay r context).answer = .ok step) (index : Nat) :
    (∃ choice ∈ step.choices, choice.index = index) ↔ index < step.choices.length := by
  have hchoices := (choices_of_loadRoleplay h).2
  cases hin : d.choicesIn r step.context with
  | nil =>
      rw [hin] at hchoices
      simp [hchoices, eq_comm]
  | cons first rest =>
      rw [hin] at hchoices
      dsimp only at hchoices
      rw [hchoices, List.length_map, List.length_zipIdx]
      constructor
      · rintro ⟨choice, hmem, rfl⟩
        obtain ⟨⟨node, number⟩, hnode, rfl⟩ := List.mem_map.1 hmem
        exact (List.getElem?_eq_some_iff.1 (List.mem_zipIdx_iff_getElem?.1 hnode)).1
      · intro hlt
        have hmem : ((first :: rest)[index], index) ∈ (first :: rest).zipIdx :=
          List.mem_zipIdx_iff_getElem?.2 (List.getElem?_eq_getElem hlt)
        exact ⟨_, List.mem_map_of_mem hmem, rfl⟩

end Document

end Gamebook
