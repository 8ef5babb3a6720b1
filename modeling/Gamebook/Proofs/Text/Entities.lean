import Mathlib.Data.List.Basic
import Gamebook.Text.Entity

/-! # Entities, one after the other

Names of characters can be put in and taken out one kind after the other, each everywhere in the
text, if the ampersand comes first on the way in and last on the way out. Both ways agree with what
is done in a single pass (`escapeText_eq_replaceChars`, `decodeEntities_eq_replaceEach`).
-/

namespace Gamebook.Text

/-- The text with `c` in place of every occurrence of `name`, from left to right. -/
def replaceAll (name : List Char) (c : Char) : List Char → List Char
  | [] => []
  | first :: rest =>
    if name <+: first :: rest then c :: replaceAll name c (rest.drop (name.length - 1))
    else first :: replaceAll name c rest
termination_by text => text.length
decreasing_by
  all_goals
    simp only [List.length_cons, List.length_drop]
    omega

/-- The text with `name` in place of every character `c`. -/
def replaceChar (c : Char) (name text : List Char) : List Char :=
  text.flatMap fun first => if first = c then name else [first]

/-- The names of characters, the ampersand last. -/
def entities : List (List Char × Char) :=
  [("&lt;".toList, '<'), ("&gt;".toList, '>'), ("&quot;".toList, '"'), ("&apos;".toList, '\''),
    ("&amp;".toList, '&')]

/-- Putting in the names for a text between tags, the ampersand first. -/
theorem escapeText_eq_replaceChars (text : List Char) :
    escapeText text =
      replaceChar '>' "&gt;".toList (replaceChar '<' "&lt;".toList
        (replaceChar '&' "&amp;".toList text)) := by
  unfold escapeText replaceChar
  rw [List.flatMap_assoc, List.flatMap_assoc]
  congr 1
  funext c
  rcases escapeTextChar_cases c with (rfl | rfl | rfl) | ⟨⟨hamp, hless, hmore⟩, hself⟩
  · rfl
  · rfl
  · rfl
  · simp [hself, hamp, hless, hmore]

/-! ## One replacement -/

variable {name tail : List Char} {c : Char}

theorem replaceAll_cons_of_mismatch {first : Char} {rest : List Char}
    (h : ¬ name <+: first :: rest) :
    replaceAll name c (first :: rest) = first :: replaceAll name c rest := by
  rw [replaceAll, if_neg h]

/-- What has no ampersand is left as it is. -/
theorem replaceAll_append {word : List Char} (h : '&' ∉ word) (rest : List Char) :
    replaceAll ('&' :: tail) c (word ++ rest) = word ++ replaceAll ('&' :: tail) c rest := by
  induction word with
  | nil => rfl
  | cons first word ih =>
      have hfirst : '&' ≠ first := fun heq => h (heq ▸ List.mem_cons_self)
      have hword : '&' ∉ word := fun hmem => h (List.mem_cons_of_mem _ hmem)
      rw [List.cons_append, replaceAll_cons_of_mismatch fun hprefix =>
        hfirst (List.cons_prefix_cons.1 hprefix).1, ih hword, List.cons_append]

theorem replaceAll_name_append (rest : List Char) :
    replaceAll ('&' :: tail) c ('&' :: tail ++ rest) = c :: replaceAll ('&' :: tail) c rest := by
  rw [List.cons_append, replaceAll, if_pos (by simp)]
  simp

/-- A word without the new character that a text begins with after a replacement was there
before. -/
theorem prefix_of_prefix_replaceAll {word text : List Char} (hc : c ∉ word)
    (h : word <+: replaceAll name c text) : word <+: text := by
  induction word generalizing text with
  | nil => exact List.nil_prefix
  | cons first word ih =>
      have hfirst : first ≠ c := fun heq => hc (heq ▸ List.mem_cons_self)
      have hword : c ∉ word := fun hmem => hc (List.mem_cons_of_mem _ hmem)
      cases text with
      | nil =>
          rw [replaceAll] at h
          exact h
      | cons next rest =>
          rw [replaceAll] at h
          split at h
          · exact absurd (List.cons_prefix_cons.1 h).1 hfirst
          · obtain ⟨heq, hrest⟩ := List.cons_prefix_cons.1 h
            exact List.cons_prefix_cons.2 ⟨heq, ih hword hrest⟩

/-! ## All replacements -/

/-- The text after one replacement after the other. -/
def replaceEach (names : List (List Char × Char)) (text : List Char) : List Char :=
  names.foldl (fun text entry => replaceAll entry.1 entry.2 text) text

/-- Names begin with their only ampersand, no name has a character in it for which an earlier one
stands, and none begins with another. -/
structure Separable (names : List (List Char × Char)) : Prop where
  starts : ∀ entry ∈ names, ∃ tail, entry.1 = '&' :: tail ∧ '&' ∉ tail
  fresh : names.Pairwise fun a b => a.2 ∉ b.1
  apart : names.Pairwise fun a b => ¬ a.1 <+: b.1 ∧ ¬ b.1 <+: a.1

variable {entry : List Char × Char} {names : List (List Char × Char)}

theorem Separable.of_cons (h : Separable (entry :: names)) : Separable names where
  starts other hother := h.starts other (List.mem_cons_of_mem _ hother)
  fresh := (List.pairwise_cons.1 h.fresh).2
  apart := (List.pairwise_cons.1 h.apart).2

theorem replaceEach_cons (text : List Char) :
    replaceEach (entry :: names) text = replaceEach names (replaceAll entry.1 entry.2 text) := rfl

/-- Where no name stands the first character is left as it is. -/
theorem replaceEach_cons_of_mismatch (h : Separable names) {first : Char} {rest : List Char}
    (hnone : ∀ entry ∈ names, ¬ entry.1 <+: first :: rest) :
    replaceEach names (first :: rest) = first :: replaceEach names rest := by
  induction names generalizing rest with
  | nil => rfl
  | cons entry names ih =>
      rw [replaceEach_cons, replaceEach_cons,
        replaceAll_cons_of_mismatch (hnone entry List.mem_cons_self)]
      refine ih h.of_cons ?_
      -- The replacement makes no name that was not there before.
      intro other hother hprefix
      refine hnone other (List.mem_cons_of_mem _ hother) ?_
      obtain ⟨tail, htail, -⟩ := h.starts other (List.mem_cons_of_mem _ hother)
      have hfresh := (List.pairwise_cons.1 h.fresh).1 other hother
      rw [htail] at hprefix hfresh ⊢
      obtain ⟨heq, hrest⟩ := List.cons_prefix_cons.1 hprefix
      have hnot : entry.2 ∉ tail := fun hmem => hfresh (List.mem_cons_of_mem _ hmem)
      exact List.cons_prefix_cons.2 ⟨heq, prefix_of_prefix_replaceAll hnot hrest⟩

theorem not_prefix_append {a b : List Char} (hab : ¬ a <+: b) (hba : ¬ b <+: a)
    (rest : List Char) : ¬ a <+: b ++ rest := by
  intro h
  rcases List.prefix_or_prefix_of_prefix h (List.prefix_append b rest) with h | h
  · exact hab h
  · exact hba h

/-- A name is replaced as a whole. -/
theorem replaceEach_name_append (h : Separable names) (hentry : entry ∈ names)
    (rest : List Char) :
    replaceEach names (entry.1 ++ rest) = entry.2 :: replaceEach names rest := by
  induction names generalizing rest with
  | nil => cases hentry
  | cons first names ih =>
      obtain ⟨tail, htail, hamp⟩ := h.starts first List.mem_cons_self
      rw [replaceEach_cons, replaceEach_cons]
      rcases List.mem_cons.1 hentry with rfl | hmem
      · -- The new character is not an ampersand if there are names left to replace.
        rw [htail, replaceAll_name_append]
        refine replaceEach_cons_of_mismatch h.of_cons ?_
        intro other hother hprefix
        obtain ⟨others, hothers, -⟩ := h.starts other (List.mem_cons_of_mem _ hother)
        have hfresh := (List.pairwise_cons.1 h.fresh).1 other hother
        rw [hothers] at hprefix hfresh
        exact hfresh ((List.cons_prefix_cons.1 hprefix).1 ▸ List.mem_cons_self)
      · obtain ⟨word, hword, hfree⟩ := h.starts entry (List.mem_cons_of_mem _ hmem)
        obtain ⟨hleft, hright⟩ := (List.pairwise_cons.1 h.apart).1 entry hmem
        have hstays : replaceAll first.1 first.2 (entry.1 ++ rest) =
            entry.1 ++ replaceAll first.1 first.2 rest := by
          have hnot := not_prefix_append hleft hright rest
          rw [hword] at hnot ⊢
          rw [List.cons_append] at hnot ⊢
          rw [replaceAll_cons_of_mismatch hnot, htail, replaceAll_append hfree, List.cons_append]
        rw [hstays]
        exact ih h.of_cons hmem _

theorem separable_entities : Separable entities where
  starts := by
    simp only [entities, List.forall_mem_cons]
    refine ⟨⟨_, rfl, by decide⟩, ⟨_, rfl, by decide⟩, ⟨_, rfl, by decide⟩, ⟨_, rfl, by decide⟩,
      ⟨_, rfl, by decide⟩, by simp⟩
  fresh := by decide
  apart := by decide

/-- Putting the characters back in a single pass is replacing one name after the other. -/
theorem decodeEntities_eq_replaceEach (text : List Char) :
    decodeEntities text = replaceEach entities text := by
  have hname {name : List Char} {c : Char} (h : (name, c) ∈ entities) (rest : List Char) :
      replaceEach entities (name ++ rest) = c :: replaceEach entities rest :=
    replaceEach_name_append separable_entities h rest
  fun_induction decodeEntities text with
  | case1 rest ih =>
      rw [ih]
      exact (hname (show ("&lt;".toList, '<') ∈ entities by decide) rest).symm
  | case2 rest ih =>
      rw [ih]
      exact (hname (show ("&gt;".toList, '>') ∈ entities by decide) rest).symm
  | case3 rest ih =>
      rw [ih]
      exact (hname (show ("&quot;".toList, '"') ∈ entities by decide) rest).symm
  | case4 rest ih =>
      rw [ih]
      exact (hname (show ("&apos;".toList, '\'') ∈ entities by decide) rest).symm
  | case5 rest ih =>
      rw [ih]
      exact (hname (show ("&amp;".toList, '&') ∈ entities by decide) rest).symm
  | case6 c rest hlt hgt hquot hapos hamp ih =>
      rw [ih]
      refine (replaceEach_cons_of_mismatch separable_entities ?_).symm
      simp only [entities, List.forall_mem_cons]
      refine ⟨?_, ?_, ?_, ?_, ?_, by simp⟩
      all_goals
        rintro ⟨after, heq⟩
        obtain ⟨rfl, rfl⟩ := List.cons.inj heq
      · exact hlt after rfl rfl
      · exact hgt after rfl rfl
      · exact hquot after rfl rfl
      · exact hapos after rfl rfl
      · exact hamp after rfl rfl
  | case7 => simp [replaceEach, entities, replaceAll]

end Gamebook.Text
