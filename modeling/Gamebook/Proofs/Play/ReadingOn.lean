import Gamebook.Proofs.Document.Walks
import Gamebook.Proofs.Play.Levels

/-! # Where reading goes on

Once there is nothing left within a node, play goes on behind the node, or behind one of the nodes
around it that is no branch, and it looks for the way from the inside out. In a document in the
order of reading this comes to looking from the front: what stands behind an inner level stands
before what stands behind an outer one (`pairwise_lt_ahead`). So of all the nodes at which play can
go on it goes on at the one that is read first (`fallThrough_isFirst_of_read`).
-/

namespace Gamebook.Document

open Relation

variable (d : Document)

/-- The second node stands behind the first, beside it. -/
def StandsBehind (level next : d.Ref) : Prop :=
  ∃ parent before after, d.children parent = before ++ level :: after ∧ next ∈ after

/-- Play can go on at a node once there is nothing left within another: the node takes part, and
stands behind the other, or behind a node around it that is neither a choice nor an event. -/
def GoesOnAt (r : d.Ref) (context : Context) (next : d.Ref) : Prop :=
  d.takesPart context next = true ∧ ∃ level,
    (level = r ∨ d.StandsIn r level ∧ (d.tag level).isBranch = false) ∧ d.StandsBehind level next

/-- The nodes behind the levels of a node, from the inside out. -/
def ahead (r : d.Ref) : List d.Ref :=
  (d.levels r).flatMap d.followers

variable {d}

/-! ## Levels -/

theorem standsBehind_iff {level next : d.Ref} :
    d.StandsBehind level next ↔ next ∈ d.followers level := by
  rw [mem_followers_iff]
  constructor
  · rintro ⟨parent, before, after, hchildren, hnext⟩
    have hsorted := pairwise_lt_children parent
    rw [hchildren] at hsorted
    refine ⟨parent, ?_, ?_, ?_⟩
    · exact d.mem_children_iff.1 (by simp [hchildren])
    · exact d.mem_children_iff.1 (by simp [hchildren, hnext])
    · exact List.rel_of_pairwise_cons (List.pairwise_append.1 hsorted).2.1 hnext
  · rintro ⟨parent, hlevel, hnext, hlt⟩
    obtain ⟨before, after, hchildren⟩ := List.append_of_mem (d.mem_children_iff.2 hlevel)
    have hmem := d.mem_children_iff.2 hnext
    have hsorted := pairwise_lt_children parent
    rw [hchildren] at hmem hsorted
    refine ⟨parent, before, after, hchildren, ?_⟩
    rcases List.mem_append.1 hmem with hbefore | hafter
    · have hless := (List.pairwise_append.1 hsorted).2.2 next hbefore level List.mem_cons_self
      exact absurd hlt (lt_asymm hless)
    · exact (List.mem_cons.1 hafter).resolve_left (ne_of_gt hlt)

theorem lt_of_mem_around {r outer : d.Ref} (h : outer ∈ d.around r) : outer < r := by
  fun_induction around d r with
  | case1 => cases h
  | case2 r parent hparent ih =>
      rcases List.mem_cons.1 h with rfl | hmem
      · exact d.parent?_lt hparent
      · exact (ih hmem).trans (d.parent?_lt hparent)

theorem mem_around_of_standsIn {r outer : d.Ref} (h : d.StandsIn r outer) (hne : outer ≠ r) :
    outer ∈ d.around r := by
  fun_induction around d r with
  | case1 r hparent =>
      rcases ReflTransGen.cases_head h with heq | ⟨next, hnext, hrest⟩
      · exact absurd (Fin.ext heq.symm) hne
      · have hlt : next < d.entries.size := (lt_of_outerNumber? hnext).trans r.isLt
        have hsome : d.parent? r = some ⟨next, hlt⟩ := outerNumber?_eq_some_iff.1 hnext
        cases hparent.symm.trans hsome
  | case2 r parent hparent ih =>
      rcases ReflTransGen.cases_head h with heq | ⟨next, hnext, hrest⟩
      · exact absurd (Fin.ext heq.symm) hne
      · rw [outerNumber?_eq_some_iff.2 hparent, Option.some.injEq] at hnext
        subst hnext
        by_cases hparent : outer = parent
        · exact hparent ▸ List.mem_cons_self
        · exact List.mem_cons_of_mem _ (ih hrest hparent)

theorem mem_levels_iff {r level : d.Ref} :
    level ∈ d.levels r ↔ level = r ∨ d.StandsIn r level ∧ (d.tag level).isBranch = false := by
  simp only [levels, List.mem_cons, List.mem_filter, Bool.not_eq_true']
  constructor
  · rintro (rfl | ⟨hmem, hbranch⟩)
    · exact Or.inl rfl
    · exact Or.inr ⟨standsIn_of_mem_around hmem, hbranch⟩
  · rintro (rfl | ⟨hstands, hbranch⟩)
    · exact Or.inl rfl
    · by_cases heq : level = r
      · exact Or.inl heq
      · exact Or.inr ⟨mem_around_of_standsIn hstands heq, hbranch⟩

/-- Each node around a node stands in those that are listed after it. -/
theorem pairwise_standsIn_around (r : d.Ref) :
    (d.around r).Pairwise fun inner outer : d.Ref => d.StandsIn inner outer ∧ outer < inner := by
  fun_induction around d r with
  | case1 => exact .nil
  | case2 r parent hparent ih =>
      refine List.pairwise_cons.2 ⟨fun outer houter => ?_, ih⟩
      exact ⟨standsIn_of_mem_around houter, lt_of_mem_around houter⟩

theorem pairwise_standsIn_levels (r : d.Ref) :
    (d.levels r).Pairwise fun inner outer : d.Ref => d.StandsIn inner outer ∧ outer < inner := by
  refine List.pairwise_cons.2 ⟨?_, (pairwise_standsIn_around r).filter _⟩
  intro outer houter
  have hmem := (List.mem_filter.1 houter).1
  exact ⟨standsIn_of_mem_around hmem, lt_of_mem_around hmem⟩

/-! ## What is ahead -/

theorem mem_ahead_iff {r next : d.Ref} :
    next ∈ d.ahead r ↔ ∃ level,
      (level = r ∨ d.StandsIn r level ∧ (d.tag level).isBranch = false) ∧
        d.StandsBehind level next := by
  simp only [ahead, List.mem_flatMap, mem_levels_iff, standsBehind_iff]

theorem goesOnAt_iff {r next : d.Ref} {context : Context} :
    d.GoesOnAt r context next ↔ d.takesPart context next = true ∧ next ∈ d.ahead r := by
  rw [GoesOnAt, mem_ahead_iff]

instance (r : d.Ref) (context : Context) : DecidablePred (d.GoesOnAt r context) := fun next =>
  decidable_of_iff (d.takesPart context next && (d.ahead r).contains next)
    (by simp only [goesOnAt_iff, Bool.and_eq_true, List.contains_iff_mem])

theorem value_fallThrough_eq_find?_ahead (r : d.Ref) (context : Context) :
    (d.fallThrough r context).value = (d.ahead r).find? (d.takesPart context) := by
  rw [value_fallThrough_eq, onward?, ahead, List.find?_flatMap]

/-- What stands behind a node stands in all nodes around it, too. -/
theorem standsIn_of_mem_followers {inner outer next : d.Ref} (hinner : d.StandsIn inner outer)
    (hlt : outer < inner) (hnext : next ∈ d.followers inner) : d.StandsIn next outer := by
  obtain ⟨parent, hparent, hsame, -⟩ := mem_followers_iff.1 hnext
  rcases ReflTransGen.cases_head hinner with heq | ⟨number, hnumber, hrest⟩
  · exact absurd heq (Nat.ne_of_gt hlt)
  · rw [outerNumber?_eq_some_iff.2 hparent, Option.some.injEq] at hnumber
    subst hnumber
    exact hrest.head (outerNumber?_eq_some_iff.2 hsame)

/-- What is ahead of a node is listed in the order of reading. -/
theorem pairwise_lt_ahead (hordered : d.InReadingOrder) (r : d.Ref) :
    (d.ahead r).Pairwise (· < ·) := by
  rw [ahead, List.pairwise_flatMap]
  refine ⟨?_, (pairwise_standsIn_levels r).imp ?_⟩
  · intro level _
    cases hparent : d.parent? level with
    | none => simp [followers, hparent]
    | some parent =>
        rw [followers_eq_filter hparent]
        exact (pairwise_lt_children parent).filter _
  · rintro inner outer ⟨hstands, hlt⟩ next hnext other hother
    exact lt_of_standsIn hordered (standsIn_of_mem_followers hstands hlt hnext) hother

/-- Looking ahead from the inside out and reading from the front meet the same nodes. -/
theorem filter_descendants_eq (hordered : d.InReadingOrder) (r : d.Ref) (context : Context) :
    (d.descendants d.root).filter (d.GoesOnAt r context) =
      (d.ahead r).filter (d.takesPart context) := by
  apply ((pairwise_lt_descendants hordered d.root).filter _).eq_of_mem_iff
    ((pairwise_lt_ahead hordered r).filter _)
  intro next
  have hroot : next ∈ d.descendants d.root := mem_descendants_root next
  simp only [List.mem_filter, hroot, true_and, decide_eq_true_eq, goesOnAt_iff]
  exact and_comm

theorem value_fallThrough_eq_find? (hordered : d.InReadingOrder) (r : d.Ref) (context : Context) :
    (d.fallThrough r context).value =
      (d.descendants d.root).find? fun next => d.GoesOnAt r context next := by
  rw [value_fallThrough_eq_find?_ahead, ← List.head?_filter, ← List.head?_filter,
    filter_descendants_eq hordered]

/-- Play does not go on beside a choice or an event that it is in. -/
theorem parent?_ne_of_goesOnAt {r next branch : d.Ref} {context : Context}
    (h : d.GoesOnAt r context next) (hstands : d.StandsIn r branch) (hne : branch ≠ r)
    (hbranch : (d.tag branch).isBranch = true) : d.parent? next ≠ d.parent? branch := by
  obtain ⟨-, level, hlevel, hbehind⟩ := h
  obtain ⟨parent, hparent, hnext, -⟩ := mem_followers_iff.1 (standsBehind_iff.1 hbehind)
  intro hsame
  have hlevelin : d.StandsIn r level := by
    rcases hlevel with rfl | ⟨hlevel, -⟩
    · exact .refl
    · exact hlevel
  -- The level and the branch have one parent, and a node stands in only one of its children.
  have hmem : level ∈ d.children parent := d.mem_children_iff.2 hparent
  have hmem' : branch ∈ d.children parent := d.mem_children_iff.2 (hsame ▸ hnext)
  have heq : level = branch := by
    rcases standsIn_or_standsIn hlevelin hstands with hin | hin
    · exact eq_of_standsIn_of_mem_children hmem hmem' hin
    · exact (eq_of_standsIn_of_mem_children hmem' hmem hin).symm
  subst heq
  rcases hlevel with rfl | ⟨-, hother⟩
  · exact hne rfl
  · cases hbranch.symm.trans hother

/-- In a document that was read play goes on at the first node, in the order of reading, among all
those at which it can go on once there is nothing left within a node, and nowhere exactly if there
is none. It never goes on beside a choice or an event that it is in. -/
theorem fallThrough_isFirst_of_read {text : String} {d : Document} (h : read text = .ok d)
    (r : d.Ref) (context : Context) :
    ((d.fallThrough r context).value =
      (d.descendants d.root).find? fun next => d.GoesOnAt r context next) ∧
    (∀ next, (d.fallThrough r context).value = some next →
      d.GoesOnAt r context next ∧ (∀ other, d.GoesOnAt r context other → next ≤ other) ∧
      ∀ branch : d.Ref, d.StandsIn r branch → branch ≠ r → (d.tag branch).isBranch = true →
        d.parent? next ≠ d.parent? branch) ∧
    ((d.fallThrough r context).value = none ↔ ∀ next, ¬ d.GoesOnAt r context next) := by
  have hordered := inReadingOrder_of_read h
  have hfirst := value_fallThrough_eq_find? hordered r context
  refine ⟨hfirst, ?_, ?_⟩
  · intro next hnext
    rw [hfirst] at hnext
    obtain ⟨hgoes, before, after, hwalk, hbefore⟩ := List.find?_eq_some_iff_append.1 hnext
    have hgoes : d.GoesOnAt r context next := of_decide_eq_true hgoes
    refine ⟨hgoes, ?_, fun branch => parent?_ne_of_goesOnAt hgoes⟩
    intro other hother
    have hsorted := pairwise_lt_descendants hordered d.root
    have hmem : other ∈ d.descendants d.root := mem_descendants_root other
    rw [hwalk] at hsorted hmem
    rcases List.mem_append.1 hmem with hmem | hmem
    · simpa [hother] using hbefore other hmem
    · rcases List.mem_cons.1 hmem with rfl | hmem
      · exact le_refl other
      · exact (List.rel_of_pairwise_cons (List.pairwise_append.1 hsorted).2.1 hmem).le
  · rw [hfirst, List.find?_eq_none]
    constructor
    · intro hnone next hgoes
      have hmem : next ∈ d.descendants d.root := mem_descendants_root next
      exact hnone next hmem (decide_eq_true hgoes)
    · intro hnone next _ hgoes
      exact hnone next (of_decide_eq_true hgoes)

/-- A card with two choices, a combat that takes no part, and a card behind both. -/
def cloister : String :=
  "<quest><roleplay><choice text='in'><roleplay/></choice>" ++
    "<choice text='out'><roleplay/></choice></roleplay><combat if='false'/><roleplay/></quest>"

/-- Behind the card in the first choice of the cloister play goes on at the last card, past the
other choice and the combat, and nothing at which it could go on is read before. -/
theorem fallThrough_isFirst_of_read_cloister :
    ∃ (d : Document) (r next : d.Ref), read cloister = .ok d ∧ r.val = 3 ∧ next.val = 7 ∧
      (d.descendants d.root).find? (fun next => d.GoesOnAt r .empty next) = some next ∧
      ∀ other, d.GoesOnAt r .empty other → next ≤ other := by
  have hresult : (read cloister).toOption.any (fun d => (d.ref? 3).any fun r =>
      (d.fallThrough r .empty).value.any fun next => decide (r.val = 3 ∧ next.val = 7)) = true := by
    decide +kernel
  obtain ⟨d, hd, hresult⟩ := (Option.any_eq_true _ _).1 hresult
  obtain ⟨r, -, hresult⟩ := (Option.any_eq_true _ _).1 hresult
  obtain ⟨next, hnext, hresult⟩ := (Option.any_eq_true _ _).1 hresult
  obtain ⟨hr, hnumber⟩ := of_decide_eq_true hresult
  have hread := Except.toOption_eq_some_iff.1 hd
  obtain ⟨hfirst, hleast, -⟩ := fallThrough_isFirst_of_read hread r .empty
  exact ⟨d, r, next, hread, hr, hnumber, hfirst.symm.trans hnext, (hleast next hnext).2.1⟩

end Gamebook.Document
