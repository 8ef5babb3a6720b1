import Gamebook.Files.Store

/-! # Changes to a tree of files

An entry that is set or erased changes what stands at its own location and nowhere else.
-/

namespace Gamebook

namespace FileTree

theorem lookup_filter_bne (location other : Location) (entries : List (Location × FileEntry)) :
    (entries.filter fun entry => entry.1 != location).lookup other =
      if other = location then none else entries.lookup other := by
  induction entries with
  | nil => simp
  | cons first rest ih =>
      rw [List.filter_cons]
      by_cases hfirst : first.1 = location
      · rw [if_neg (by simp [hfirst]), ih]
        split
        · rfl
        next hother =>
          rw [List.lookup_cons, beq_false_of_ne fun h => hother (h.trans hfirst)]
      · rw [if_pos (by simp [hfirst]), List.lookup_cons, List.lookup_cons, ih]
        by_cases hother : other = first.1
        · simp only [hother, if_neg hfirst]
        · rw [beq_false_of_ne hother]

variable (tree : FileTree) {location : Location}

theorem get?_nil : tree.get? [] = some .directory := rfl

theorem get?_of_ne_nil (h : location ≠ []) : tree.get? location = tree.entries.lookup location := by
  cases location with
  | nil => exact absurd rfl h
  | cons name rest => rfl

theorem get?_erase (h : location ≠ []) (other : Location) :
    (tree.erase location).get? other = if other = location then none else tree.get? other := by
  by_cases hother : other = []
  · subst hother
    rw [if_neg h.symm, get?_nil, get?_nil]
  · rw [get?_of_ne_nil _ hother, get?_of_ne_nil _ hother]
    exact lookup_filter_bne location other tree.entries

theorem get?_set (h : location ≠ []) (entry : FileEntry) (other : Location) :
    (tree.set location entry).get? other =
      if other = location then some entry else tree.get? other := by
  by_cases hother : other = []
  · subst hother
    rw [if_neg h.symm, get?_nil, get?_nil]
  · have herase := tree.get?_erase h other
    rw [get?_of_ne_nil _ hother] at herase
    rw [get?_of_ne_nil _ hother, set, List.lookup_append, herase]
    by_cases hsame : other = location
    · rw [if_pos hsame, if_pos hsame, hsame, List.lookup_cons_self, Option.none_or]
    · rw [if_neg hsame, if_neg hsame, List.lookup_cons, beq_false_of_ne hsame, List.lookup_nil,
        Option.or_none]

theorem isDirectory_iff {tree : FileTree} {location : Location} :
    tree.isDirectory location = true ↔ tree.get? location = some .directory := by
  unfold isDirectory
  split
  next h => simp [h]
  next h =>
    simp only [Bool.false_eq_true, false_iff]
    exact h

end FileTree

end Gamebook
