import Mathlib.Data.List.TakeWhile
import Gamebook.Content.Icon

/-! # What replaces icons

The icons of a text are its names in square brackets. No two of them overlap, so that a text is cut
in one way into its icons and the characters beside them (`IsIconCut.unique`). Each icon is replaced
by its picture and each other character stays; no icon is left in what comes of it, so that nothing
is replaced a second time (`exists_iconCut_withIcons`).
-/

namespace Gamebook.Content

/-- The name of an icon: ASCII letters, digits and underscores, at least one of them. -/
structure IsIconName (name : List Char) : Prop where
  ne_nil : name ≠ []
  all : ∀ c ∈ name, isIconChar c = true

/-- A name in square brackets. -/
def iconToken (name : List Char) : List Char :=
  '[' :: (name ++ [']'])

/-- Whether an icon stands somewhere in a text. -/
def HoldsIcon (text : List Char) : Prop :=
  ∃ before name after, IsIconName name ∧ text = before ++ (iconToken name ++ after)

/-- A piece of a text: a character, or an icon. -/
inductive IconPiece where
  | char (c : Char)
  | icon (name : List Char)

namespace IconPiece

/-- A piece as it stands in the text. -/
def source : IconPiece → List Char
  | char c => [c]
  | icon name => iconToken name

/-- What a piece comes to. -/
def shown : IconPiece → List Char
  | char c => [c]
  | icon name => iconImage name

end IconPiece

/-- Pieces that make up a text, among which are all of its icons and no others. -/
structure IsIconCut (text : List Char) (cut : List IconPiece) : Prop where
  source_eq : cut.flatMap IconPiece.source = text
  isIconName : ∀ name, .icon name ∈ cut → IsIconName name
  /-- Where an icon stands in the text, the piece for it stands in the same place. -/
  exists_piece : ∀ before name after, IsIconName name →
    text = before ++ (iconToken name ++ after) →
    ∃ first last, cut = first ++ .icon name :: last ∧ first.flatMap IconPiece.source = before

/-! ## Names in brackets -/

theorem isIconChar_ne {c : Char} (h : isIconChar c = true) : c ≠ '[' ∧ c ≠ '<' := by
  constructor
  · rintro rfl
    exact absurd h (by decide)
  · rintro rfl
    exact absurd h (by decide)

theorem iconName?_eq_some_iff {text name after : List Char} :
    iconName? text = some (name, after) ↔ IsIconName name ∧ text = name ++ ']' :: after := by
  constructor
  · intro h
    unfold iconName? at h
    dsimp only at h
    split at h
    next rest hrest =>
      split at h
      · cases h
      next hname =>
        cases h
        refine ⟨⟨by simpa using hname, fun c hc => List.mem_takeWhile_imp hc⟩, ?_⟩
        rw [← hrest, List.takeWhile_append_dropWhile]
    next => cases h
  · rintro ⟨hname, rfl⟩
    have hend : isIconChar ']' = false := by decide
    have hne : name.isEmpty = false := by simpa using hname.ne_nil
    simp [iconName?, List.takeWhile_append_of_pos hname.all,
      List.dropWhile_append_of_pos hname.all, hend, hne]

/-- An opening bracket behind characters that are none stands behind all of them. -/
theorem exists_append_of_not_mem {front text before after : List Char} (hfront : '[' ∉ front)
    (h : front ++ text = before ++ '[' :: after) :
    ∃ middle, before = front ++ middle ∧ text = middle ++ '[' :: after := by
  rcases List.append_eq_append_iff.1 h with ⟨middle, rfl, htext⟩ | ⟨middle, rfl, hafter⟩
  · exact ⟨middle, rfl, htext⟩
  · cases middle with
    | nil => exact ⟨[], by simp, by simpa using hafter.symm⟩
    | cons c middle =>
        rw [List.cons_append, List.cons.injEq] at hafter
        obtain ⟨rfl, -⟩ := hafter
        exact absurd (by simp) hfront

theorem IsIconName.not_mem {name : List Char} (h : IsIconName name) : '[' ∉ name ++ [']'] := by
  rw [List.mem_append, List.mem_singleton]
  rintro (hmem | heq)
  · exact (isIconChar_ne (h.all _ hmem)).1 rfl
  · exact absurd heq (by decide)

theorem IsIconName.not_mem_iconImage {name : List Char} (h : IsIconName name) :
    '[' ∉ iconImage name := by
  unfold iconImage
  rw [List.mem_append, List.mem_append]
  rintro ((hmem | hmem) | hmem)
  · exact absurd hmem (by decide)
  · exact (isIconChar_ne (h.all _ hmem)).1 rfl
  · exact absurd hmem (by decide)

/-- Two icons that stand in one place are the same. -/
theorem IsIconName.append_inj {name other after rest : List Char} (h : IsIconName name)
    (hother : IsIconName other) (heq : name ++ ']' :: after = other ++ ']' :: rest) :
    name = other ∧ after = rest := by
  have hread : iconName? (name ++ ']' :: after) = some (name, after) :=
    iconName?_eq_some_iff.2 ⟨h, rfl⟩
  rw [iconName?_eq_some_iff.2 ⟨hother, heq⟩] at hread
  cases hread
  exact ⟨rfl, rfl⟩

/-! ## Cutting -/

namespace IsIconCut

variable {text : List Char} {cut : List IconPiece}

theorem nil : IsIconCut [] [] := by
  refine ⟨rfl, by simp, ?_⟩
  intro before name after _ heq
  simp [iconToken] at heq

theorem cons_char {c : Char}
    (hfree : ∀ name after, IsIconName name → c :: text ≠ iconToken name ++ after)
    (h : IsIconCut text cut) : IsIconCut (c :: text) (.char c :: cut) where
  source_eq := by
    rw [List.flatMap_cons, h.source_eq]
    rfl
  isIconName name hmem := by
    rcases List.mem_cons.1 hmem with heq | hmem
    · cases heq
    · exact h.isIconName name hmem
  exists_piece before name after hname heq := by
    cases before with
    | nil => exact absurd heq (hfree name after hname)
    | cons first before =>
        rw [List.cons_append, List.cons.injEq] at heq
        obtain ⟨rfl, heq⟩ := heq
        obtain ⟨front, last, rfl, rfl⟩ := h.exists_piece before name after hname heq
        exact ⟨.char c :: front, last, rfl, rfl⟩

theorem cons_icon {name : List Char} (hname : IsIconName name) (h : IsIconCut text cut) :
    IsIconCut (iconToken name ++ text) (.icon name :: cut) where
  source_eq := by
    rw [List.flatMap_cons, h.source_eq]
    rfl
  isIconName other hmem := by
    rcases List.mem_cons.1 hmem with heq | hmem
    · cases heq
      exact hname
    · exact h.isIconName other hmem
  exists_piece before other after hother heq := by
    cases before with
    | nil =>
        simp only [iconToken, List.nil_append, List.cons_append, List.cons.injEq, true_and,
          List.append_assoc] at heq
        obtain ⟨rfl, rfl⟩ := hname.append_inj hother heq
        exact ⟨[], cut, rfl, rfl⟩
    | cons first before =>
        -- Another icon does not begin within the first one, so it stands behind it.
        simp only [iconToken, List.cons_append, List.cons.injEq] at heq
        obtain ⟨rfl, heq⟩ := heq
        obtain ⟨middle, rfl, htext⟩ := exists_append_of_not_mem hname.not_mem heq
        have hplace : text = middle ++ (iconToken other ++ after) := by
          simpa [iconToken] using htext
        obtain ⟨front, last, rfl, rfl⟩ := h.exists_piece middle other after hother hplace
        exact ⟨.icon name :: front, last, rfl, rfl⟩

theorem source_ne_nil (piece : IconPiece) : piece.source ≠ [] := by
  cases piece <;> exact List.cons_ne_nil _ _

theorem eq_nil_of_source_eq_nil (h : cut.flatMap IconPiece.source = []) : cut = [] := by
  cases cut with
  | nil => rfl
  | cons piece rest =>
      rw [List.flatMap_cons, List.append_eq_nil_iff] at h
      exact absurd h.1 (source_ne_nil piece)

/-- A text that begins with an icon is cut behind it. -/
theorem exists_cons (h : IsIconCut text cut) {name after : List Char} (hname : IsIconName name)
    (heq : text = iconToken name ++ after) : ∃ rest, cut = .icon name :: rest := by
  obtain ⟨first, last, rfl, hfirst⟩ := h.exists_piece [] name after hname heq
  rw [eq_nil_of_source_eq_nil hfirst]
  exact ⟨last, rfl⟩

theorem tail {piece : IconPiece} (h : IsIconCut text (piece :: cut)) :
    IsIconCut (cut.flatMap IconPiece.source) cut where
  source_eq := rfl
  isIconName name hmem := h.isIconName name (List.mem_cons_of_mem _ hmem)
  exists_piece before name after hname heq := by
    have htext : text = (piece.source ++ before) ++ (iconToken name ++ after) := by
      rw [← h.source_eq, List.flatMap_cons, heq, List.append_assoc]
    obtain ⟨first, last, hcut, hfirst⟩ := h.exists_piece _ name after hname htext
    cases first with
    | nil =>
        have hnil := (List.append_eq_nil_iff.1 hfirst.symm).1
        exact absurd hnil (source_ne_nil piece)
    | cons other first =>
        rw [List.cons_append, List.cons.injEq] at hcut
        obtain ⟨rfl, rfl⟩ := hcut
        exact ⟨first, last, rfl, List.append_cancel_left hfirst⟩

/-- A text is cut in one way. -/
theorem unique (h : IsIconCut text cut) {other : List IconPiece} (hother : IsIconCut text other) :
    other = cut := by
  induction cut generalizing text other with
  | nil =>
      exact eq_nil_of_source_eq_nil (hother.source_eq.trans h.source_eq.symm)
  | cons piece rest ih =>
      cases other with
      | nil =>
          have hnil := eq_nil_of_source_eq_nil (h.source_eq.trans hother.source_eq.symm)
          exact absurd hnil (List.cons_ne_nil _ _)
      | cons first others =>
          have hsource := hother.source_eq.trans h.source_eq.symm
          rw [List.flatMap_cons, List.flatMap_cons] at hsource
          have hfirst : first = piece := by
            cases piece with
            | icon name =>
                have hname := h.isIconName name List.mem_cons_self
                obtain ⟨_, heq⟩ := hother.exists_cons hname h.source_eq.symm
                exact (List.cons.inj heq).1
            | char c =>
                cases first with
                | icon name =>
                    have hname := hother.isIconName name List.mem_cons_self
                    obtain ⟨_, heq⟩ := h.exists_cons hname hother.source_eq.symm
                    exact (List.cons.inj heq).1.symm
                | char d => rw [(List.cons.inj hsource).1]
          subst hfirst
          have hrest := List.append_cancel_left hsource
          have hothers := hother.tail
          rw [hrest] at hothers
          rw [ih h.tail hothers]

end IsIconCut

theorem iconName?_of_token {c : Char} {rest name after : List Char} (hname : IsIconName name)
    (h : c :: rest = iconToken name ++ after) : c = '[' ∧ iconName? rest = some (name, after) := by
  simp only [iconToken, List.cons_append, List.cons.injEq, List.append_assoc, List.nil_append] at h
  exact ⟨h.1, iconName?_eq_some_iff.2 ⟨hname, h.2⟩⟩

/-- A text is cut into icons and characters, and comes to what they come to. -/
theorem exists_isIconCut (text : List Char) :
    ∃ cut, IsIconCut text cut ∧ withIcons text = cut.flatMap IconPiece.shown := by
  fun_induction withIcons text with
  | case1 => exact ⟨[], .nil, rfl⟩
  | case2 rest name after hread ih =>
      obtain ⟨hname, rfl⟩ := iconName?_eq_some_iff.1 hread
      obtain ⟨cut, hcut, hshown⟩ := ih
      refine ⟨.icon name :: cut, ?_, ?_⟩
      · simpa [iconToken] using hcut.cons_icon hname
      · rw [hshown]
        rfl
  | case3 rest hread ih =>
      obtain ⟨cut, hcut, hshown⟩ := ih
      refine ⟨.char '[' :: cut, hcut.cons_char ?_, ?_⟩
      · intro name after hname heq
        have hfound := (iconName?_of_token hname heq).2
        rw [hread] at hfound
        cases hfound
      · rw [hshown]
        rfl
  | case4 c rest hc ih =>
      obtain ⟨cut, hcut, hshown⟩ := ih
      refine ⟨.char c :: cut, hcut.cons_char ?_, ?_⟩
      · intro name after hname heq
        exact hc (iconName?_of_token hname heq).1
      · rw [hshown]
        rfl

/-! ## What comes of a text -/

/-- What comes of a text begins with a character of the text, with a bracket or with a picture. -/
theorem exists_cons_of_withIcons {c : Char} {text rest : List Char} (hopen : c ≠ '[')
    (hless : c ≠ '<') (h : withIcons text = c :: rest) :
    ∃ behind, text = c :: behind ∧ withIcons behind = rest := by
  unfold withIcons at h
  split at h
  · cases h
  next first behind =>
    split at h
    · split at h
      · -- A picture begins with the bracket of its markup.
        exact absurd (List.cons.inj h).1.symm hless
      next hbracket _ =>
        rw [hbracket] at h
        exact absurd (List.cons.inj h).1.symm hopen
    · obtain ⟨rfl, hrest⟩ := List.cons.inj h
      exact ⟨behind, rfl, hrest⟩

/-- A name with a closing bracket behind it, in what comes of a text, stood there before. -/
theorem exists_eq_of_withIcons_eq {name text after : List Char}
    (hname : ∀ c ∈ name, isIconChar c = true) (h : withIcons text = name ++ ']' :: after) :
    ∃ behind, text = name ++ ']' :: behind := by
  induction name generalizing text with
  | nil =>
      obtain ⟨behind, rfl, -⟩ := exists_cons_of_withIcons (by decide) (by decide) h
      exact ⟨behind, rfl⟩
  | cons c name ih =>
      obtain ⟨hc, hname⟩ := List.forall_mem_cons.1 hname
      obtain ⟨hopen, hless⟩ := isIconChar_ne hc
      obtain ⟨rest, rfl, hrest⟩ := exists_cons_of_withIcons hopen hless h
      obtain ⟨behind, rfl⟩ := ih hname hrest
      exact ⟨behind, rfl⟩

/-- No icon is left in what comes of a text. -/
theorem not_holdsIcon_withIcons (text : List Char) : ¬ HoldsIcon (withIcons text) := by
  rintro ⟨before, name, after, hname, heq⟩
  fun_induction withIcons text generalizing before with
  | case1 => simp [iconToken] at heq
  | case2 rest picture behind hread ih =>
      obtain ⟨hpicture, -⟩ := iconName?_eq_some_iff.1 hread
      obtain ⟨middle, -, hbehind⟩ := exists_append_of_not_mem hpicture.not_mem_iconImage heq
      exact ih middle hbehind
  | case3 rest hread ih =>
      cases before with
      | nil =>
          obtain ⟨-, hafter⟩ := iconName?_of_token hname heq
          obtain ⟨-, hafter⟩ := iconName?_eq_some_iff.1 hafter
          obtain ⟨behind, hrest⟩ := exists_eq_of_withIcons_eq hname.all hafter
          have hfound := iconName?_eq_some_iff.2 ⟨hname, hrest⟩
          rw [hread] at hfound
          cases hfound
      | cons first before =>
          rw [List.cons_append, List.cons.injEq] at heq
          exact ih before heq.2
  | case4 c rest hc ih =>
      cases before with
      | nil => exact hc (iconName?_of_token hname heq).1
      | cons first before =>
          rw [List.cons_append, List.cons.injEq] at heq
          exact ih before heq.2

/-- A text without icons stays as it is. -/
theorem withIcons_of_not_holdsIcon {text : List Char} (h : ¬ HoldsIcon text) :
    withIcons text = text := by
  obtain ⟨cut, hcut, hshown⟩ := exists_isIconCut text
  have hsame : ∀ piece ∈ cut, piece.shown = piece.source := by
    intro piece hpiece
    cases piece with
    | char c => rfl
    | icon name =>
        obtain ⟨first, last, rfl⟩ := List.append_of_mem hpiece
        refine absurd ⟨first.flatMap IconPiece.source, name, last.flatMap IconPiece.source,
          hcut.isIconName name hpiece, ?_⟩ h
        rw [← hcut.source_eq, List.flatMap_append, List.flatMap_cons]
        rfl
  rw [hshown, List.flatMap_def, List.map_congr_left hsame, ← List.flatMap_def, hcut.source_eq]

/-- Every text is cut in exactly one way into its icons and the characters beside them. What comes
of it is a picture for each icon and each other character as it is, in order; no icon is left in
that, and it comes to itself. -/
theorem exists_iconCut_withIcons (text : List Char) :
    ∃ cut, (∀ other, IsIconCut text other ↔ other = cut) ∧
      withIcons text = cut.flatMap IconPiece.shown ∧
      ¬ HoldsIcon (withIcons text) ∧ withIcons (withIcons text) = withIcons text := by
  obtain ⟨cut, hcut, hshown⟩ := exists_isIconCut text
  refine ⟨cut, fun other => ⟨hcut.unique, ?_⟩, hshown, ?_, ?_⟩
  · rintro rfl
    exact hcut
  · exact not_holdsIcon_withIcons text
  · exact withIcons_of_not_holdsIcon (not_holdsIcon_withIcons text)

/-- Brackets within brackets, beside one another, around nothing and never closed. -/
example : withIcons "[[d20]] [a][b_2] [] [c d] [e[f]".toList =
    ("[<img class=\"inline_icon\" src=\"images/d20_small.svg\">] " ++
      "<img class=\"inline_icon\" src=\"images/a_small.svg\">" ++
      "<img class=\"inline_icon\" src=\"images/b_2_small.svg\"> [] [c d] [e" ++
      "<img class=\"inline_icon\" src=\"images/f_small.svg\">").toList := by
  decide +kernel

end Gamebook.Content
