import Mathlib.Data.List.Forall2

/-! # Results that may be failures

When a sequence of steps succeeds, all of its steps do; when it fails, one of them does. These are
the inversions by which proofs about play and about commands take a sequence apart.
-/

namespace Except

universe u v w

variable {ε ε' : Type u} {α β : Type v} {γ : Type w}

theorem bind_eq_bind (x : Except ε α) (f : α → Except ε β) : (x >>= f) = x.bind f := rfl

theorem ok_bind (a : α) (f : α → Except ε β) : (Except.ok a >>= f) = f a := rfl

theorem bind_eq_ok_iff {x : Except ε α} {f : α → Except ε β} {b : β} :
    x.bind f = .ok b ↔ ∃ a, x = .ok a ∧ f a = .ok b := by
  cases x <;> simp [Except.bind]

theorem bind_eq_error_iff {x : Except ε α} {f : α → Except ε β} {e : ε} :
    x.bind f = .error e ↔ x = .error e ∨ ∃ a, x = .ok a ∧ f a = .error e := by
  cases x <;> simp [Except.bind]

theorem map_eq_ok_iff {x : Except ε α} {f : α → β} {b : β} :
    x.map f = .ok b ↔ ∃ a, x = .ok a ∧ f a = b := by
  cases x <;> simp [Except.map]

theorem map_eq_error_iff {x : Except ε α} {f : α → β} {e : ε} :
    x.map f = .error e ↔ x = .error e := by
  cases x <;> simp [Except.map]

theorem map_bind (x : Except ε α) (f : α → Except ε β) {γ : Type v} (g : β → γ) :
    (x.bind f).map g = x.bind fun a => (f a).map g := by
  cases x <;> rfl

theorem mapError_eq_ok_iff {x : Except ε α} {f : ε → ε'} {a : α} :
    x.mapError f = .ok a ↔ x = .ok a := by
  cases x <;> constructor <;> intro h <;> cases h <;> rfl

theorem mapError_eq_error_iff {x : Except ε α} {f : ε → ε'} {e : ε'} :
    x.mapError f = .error e ↔ ∃ cause, x = .error cause ∧ f cause = e := by
  constructor
  · intro h
    cases x with
    | error cause =>
        cases h
        exact ⟨cause, rfl, rfl⟩
    | ok a => cases h
  · rintro ⟨cause, rfl, rfl⟩
    rfl

theorem isOk_iff {x : Except ε α} : x.isOk = true ↔ ∃ a, x = .ok a := by
  cases x <;> simp [isOk, Except.toBool]

theorem toOption_eq_some_iff {x : Except ε α} {a : α} : x.toOption = some a ↔ x = .ok a := by
  cases x <;> simp [Except.toOption]

theorem isOk_map (x : Except ε α) (f : α → β) : (x.map f).isOk = x.isOk := by
  cases x <;> rfl

/-- Where a step is taken for every item of a list and all succeed, the results stand in the order
of the items. -/
theorem forall₂_of_mapM {f : γ → Except ε β} {items : List γ} {results : List β}
    (h : items.mapM f = .ok results) : List.Forall₂ (fun c b => f c = .ok b) items results := by
  induction items generalizing results with
  | nil =>
      cases h
      exact .nil
  | cons first rest ih =>
      rw [List.mapM_cons] at h
      obtain ⟨b, hfirst, h⟩ := bind_eq_ok_iff.1 h
      obtain ⟨others, hrest, h⟩ := bind_eq_ok_iff.1 h
      cases h
      exact .cons hfirst (ih hrest)

/-- Every result is the result of one of the items. -/
theorem exists_of_mem_results_of_mapM {f : α → Except ε β} {items : List α} {results : List β}
    (h : items.mapM f = .ok results) {b : β} (hmem : b ∈ results) : ∃ a ∈ items, f a = .ok b := by
  have hall := forall₂_of_mapM h
  clear h
  induction hall with
  | nil => cases hmem
  | cons hfirst _ ih =>
      rcases List.mem_cons.1 hmem with rfl | hmem
      · exact ⟨_, List.mem_cons_self, hfirst⟩
      · obtain ⟨a, ha, heq⟩ := ih hmem
        exact ⟨a, List.mem_cons_of_mem _ ha, heq⟩

/-- Where a step is taken for every item of a list and all succeed, each of them does. -/
theorem exists_of_mem_of_mapM {f : α → Except ε β} {items : List α} {results : List β}
    (h : items.mapM f = .ok results) {a : α} (hmem : a ∈ items) : ∃ b, f a = .ok b := by
  have hall := forall₂_of_mapM h
  clear h
  induction hall with
  | nil => cases hmem
  | cons hfirst _ ih =>
      rcases List.mem_cons.1 hmem with rfl | hmem
      · exact ⟨_, hfirst⟩
      · exact ih hmem

theorem isOk_mapM {f : γ → Except ε β} {items : List γ} (h : ∀ item ∈ items, (f item).isOk = true) :
    (items.mapM f).isOk = true := by
  induction items with
  | nil => rfl
  | cons first rest ih =>
      obtain ⟨hfirst, hrest⟩ := List.forall_mem_cons.1 h
      obtain ⟨b, hb⟩ := isOk_iff.1 hfirst
      obtain ⟨others, hothers⟩ := isOk_iff.1 (ih hrest)
      rw [List.mapM_cons, hb, hothers]
      rfl

theorem mapM_eq_ok_map {f : α → Except ε β} {g : α → β} {items : List α}
    (h : ∀ item ∈ items, f item = .ok (g item)) : items.mapM f = .ok (items.map g) := by
  induction items with
  | nil => rfl
  | cons first rest ih =>
      obtain ⟨hfirst, hrest⟩ := List.forall_mem_cons.1 h
      rw [List.mapM_cons, hfirst, ih hrest]
      rfl

/-- A list is read from what its items are written as exactly if each of the items is. -/
theorem mapM_map_eq_ok_iff {write : α → γ} {read : γ → Except ε α} {items : List α} :
    (items.map write).mapM read = .ok items ↔ ∀ item ∈ items, read (write item) = .ok item := by
  induction items with
  | nil => simp [pure, Except.pure]
  | cons item rest ih =>
      rw [List.map_cons, List.mapM_cons, List.forall_mem_cons, ← ih]
      cases read (write item) with
      | error e => simp [bind, Except.bind]
      | ok a =>
          cases (rest.map write).mapM read with
          | error e => simp [bind, Except.bind]
          | ok others => simp [bind, Except.bind, pure, Except.pure]

/-- Where nothing but an item is read from what it is written as, nothing but the list is. -/
theorem eq_of_mapM_map {write : α → γ} {read : γ → Except ε α} {items results : List α}
    (hread : ∀ item result, read (write item) = .ok result → result = item)
    (h : (items.map write).mapM read = .ok results) : results = items := by
  have hall := forall₂_of_mapM h
  rw [List.forall₂_map_left_iff] at hall
  have heq := hall.imp hread
  rw [← List.forall₂_eq_eq_eq]
  exact heq.flip

/-- A visit comes to what the visitor says of the first item that it does not pass over. -/
theorem findSomeM?_ite {decides : γ → Bool} {outcome : γ → Except ε (Option β)}
    (h : ∀ c, outcome c ≠ .ok none) (items : List γ) :
    items.findSomeM? (fun c => if decides c then outcome c else .ok none) =
      (items.find? decides).elim (.ok none) outcome := by
  induction items with
  | nil => rfl
  | cons first rest ih =>
      rw [List.findSomeM?, List.find?_cons]
      cases decides first with
      | false => exact ih
      | true =>
          dsimp only [Option.elim_some]
          rw [if_pos rfl]
          match houtcome : outcome first with
          | .error e => rfl
          | .ok (some b) => rfl
          | .ok none => exact absurd houtcome (h first)

/-! ## Walks that stop at the first failure -/

theorem foldlM_cons_of_ok {f : α → γ → Except ε α} {item : γ} {a next : α} (h : f a item = .ok next)
    (items : List γ) : (item :: items).foldlM f a = items.foldlM f next := by
  rw [List.foldlM_cons, h, ok_bind]

theorem foldlM_append_of_ok {f : α → γ → Except ε α} {before : List γ} {a middle : α}
    (h : before.foldlM f a = .ok middle) (after : List γ) :
    (before ++ after).foldlM f a = after.foldlM f middle := by
  rw [List.foldlM_append, h, ok_bind]

/-- Where a walk arrives, every step of it was taken. -/
theorem exists_step_of_foldlM {f : α → γ → Except ε α} {items : List γ} {a last : α}
    (h : items.foldlM f a = .ok last) {item : γ} (hitem : item ∈ items) :
    ∃ before after, f before item = .ok after := by
  induction items generalizing a with
  | nil => cases hitem
  | cons first rest ih =>
      obtain ⟨next, hnext, hrest⟩ := bind_eq_ok_iff.1 h
      rcases List.mem_cons.1 hitem with rfl | hitem
      · exact ⟨a, next, hnext⟩
      · exact ih hrest hitem

/-- A walk arrives if none of its steps can fail. -/
theorem exists_foldlM_eq_ok {f : α → γ → Except ε α} {items : List γ}
    (h : ∀ item ∈ items, ∀ a, ∃ next, f a item = .ok next) (a : α) :
    ∃ last, items.foldlM f a = .ok last := by
  induction items generalizing a with
  | nil => exact ⟨a, rfl⟩
  | cons first rest ih =>
      obtain ⟨hfirst, hrest⟩ := List.forall_mem_cons.1 h
      obtain ⟨next, hnext⟩ := hfirst a
      rw [foldlM_cons_of_ok hnext]
      exact ih hrest next

/-- A walk fails as its first step does that cannot succeed, whatever follows. -/
theorem foldlM_eq_error_of_first {f : α → γ → Except ε α} {before after : List γ} {item : γ} {e : ε}
    (hbefore : ∀ earlier ∈ before, ∀ a, ∃ next, f a earlier = .ok next)
    (hitem : ∀ a, f a item = .error e) (a : α) :
    (before ++ item :: after).foldlM f a = .error e := by
  obtain ⟨last, hlast⟩ := exists_foldlM_eq_ok hbefore a
  rw [foldlM_append_of_ok hlast, List.foldlM_cons, hitem]
  rfl

end Except

/-- Where every item is one thing or the other, all of a list are the one, or there is a first that
is the other. -/
theorem List.forall_or_exists_first {α : Type _} {p q : α → Prop} (h : ∀ item, p item ∨ q item)
    (items : List α) :
    (∀ item ∈ items, p item) ∨ ∃ before item after, items = before ++ item :: after ∧
      (∀ earlier ∈ before, p earlier) ∧ q item := by
  induction items with
  | nil => simp
  | cons first rest ih =>
      rcases h first with hfirst | hfirst
      · rcases ih with hrest | ⟨before, item, after, rfl, hbefore, hitem⟩
        · exact Or.inl (List.forall_mem_cons.2 ⟨hfirst, hrest⟩)
        · exact Or.inr ⟨first :: before, item, after, rfl,
            List.forall_mem_cons.2 ⟨hfirst, hbefore⟩, hitem⟩
      · exact Or.inr ⟨[], first, rest, rfl, by simp, hfirst⟩
