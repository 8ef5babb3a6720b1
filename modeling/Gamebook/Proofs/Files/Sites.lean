import Gamebook.Proofs.Files.Trees
import Gamebook.Proofs.Result

/-! # Sites of paths

A path that can be followed leads to a location that can be told from the path alone, its site. What
stands there depends on the store. `Keeps` says that a store has changed at certain locations only;
then paths with other sites still lead to the files that they led to (`read_of_keeps`).
-/

namespace Gamebook.FileStore

/-- The location that a part of a path leads to. -/
def nextLocation (location : Location) (part : String) : Location :=
  if part = "" ∨ part = "." then location
  else if part = ".." then location.dropLast
  else location ++ [part]

/-- The location that a path leads to if it leads anywhere. -/
def siteOf (store : FileStore) (path : String) : Location :=
  ((Path.parts path.toList).map String.ofList).foldl nextLocation (store.origin path)

/-- A later store has all directories of an earlier one, and all files that do not stand at one of
the given locations. -/
structure Keeps (touched : List Location) (before after : FileStore) : Prop where
  current : after.current = before.current
  directory : ∀ location, before.tree.isDirectory location = true →
    after.tree.isDirectory location = true
  file : ∀ location content, location ∉ touched →
    before.tree.get? location = some (.file content) →
    after.tree.get? location = some (.file content)

variable {store before after : FileStore} {touched : List Location}

theorem Keeps.refl (store : FileStore) : Keeps touched store store :=
  ⟨rfl, fun _ h => h, fun _ _ _ h => h⟩

theorem Keeps.trans {last : FileStore} {later : List Location} (h : Keeps touched before after)
    (h' : Keeps later after last) : Keeps (touched ++ later) before last where
  current := h'.current.trans h.current
  directory location hdirectory := h'.directory location (h.directory location hdirectory)
  file location content hmem hfile := by
    rw [List.mem_append, not_or] at hmem
    exact h'.file location content hmem.2 (h.file location content hmem.1 hfile)

theorem Keeps.mono {more : List Location} (h : Keeps touched before after)
    (hsub : ∀ location ∈ touched, location ∈ more) : Keeps more before after where
  current := h.current
  directory := h.directory
  file location content hmem := h.file location content fun hmem' => hmem (hsub location hmem')

theorem Keeps.origin (h : Keeps touched before after) (path : String) :
    after.origin path = before.origin path := by
  rw [FileStore.origin, FileStore.origin, h.current]

theorem Keeps.siteOf (h : Keeps touched before after) (path : String) :
    after.siteOf path = before.siteOf path := by
  rw [FileStore.siteOf, FileStore.siteOf, h.origin]

/-- A part of a path is followed from a directory, and a name only to what stands there. -/
theorem enter_eq_ok_iff {location next : Location} {part : String} :
    store.enter location part = .ok next ↔
      store.tree.isDirectory location = true ∧ next = nextLocation location part ∧
        (isSpecial part = false →
          part.utf8ByteSize ≤ nameLimit ∧ (store.tree.get? next).isSome = true) := by
  have hok {a b : Location} : (Except.ok a : Except FileError Location) = .ok b ↔ b = a := by
    rw [Except.ok.injEq, eq_comm]
  unfold enter nextLocation
  cases hdirectory : store.tree.isDirectory location with
  | false => simp
  | true =>
      rw [if_neg (by simp)]
      by_cases hstay : part = "" ∨ part = "."
      · have hspecial : isSpecial part = true := by
          rcases hstay with rfl | rfl <;> decide
        rw [if_pos hstay, if_pos hstay, hok, hspecial]
        simp
      · by_cases hup : part = ".."
        · have hspecial : isSpecial part = true := by
            rw [hup]
            decide
          rw [if_neg hstay, if_neg hstay, if_pos hup, if_pos hup, hok, hspecial]
          simp
        · have hspecial : isSpecial part = false := by
            simp [isSpecial, hup, not_or.1 hstay]
          rw [if_neg hstay, if_neg hstay, if_neg hup, if_neg hup, hspecial]
          by_cases hlong : nameLimit < part.utf8ByteSize
          · rw [if_pos hlong]
            simp [Nat.not_le_of_lt hlong]
          · rw [if_neg hlong]
            split
            next hthere =>
              rw [hok]
              constructor
              · rintro rfl
                exact ⟨rfl, rfl, fun _ => ⟨Nat.le_of_not_lt hlong, hthere⟩⟩
              · exact fun h => h.2.1
            next hthere =>
              constructor
              · intro h
                cases h
              · rintro ⟨-, rfl, h⟩
                exact absurd (h rfl).2 hthere

/-- Parts that can be followed lead where they say. -/
theorem eq_foldl_of_foldlM_enter {parts : List String} {location last : Location}
    (h : parts.foldlM store.enter location = .ok last) :
    last = parts.foldl nextLocation location := by
  induction parts generalizing location with
  | nil =>
      cases h
      rfl
  | cons part rest ih =>
      obtain ⟨next, hnext, hrest⟩ := Except.bind_eq_ok_iff.1 h
      rw [ih hrest, (enter_eq_ok_iff.1 hnext).2.1]
      rfl

theorem eq_of_partsOf {path : String} {parts : List String} (h : partsOf path = .ok parts) :
    parts = (Path.parts path.toList).map String.ofList := by
  unfold partsOf at h
  split at h
  · cases h
  · split at h
    · cases h
    · split at h
      · cases h
      · cases h
        rfl

/-- A path is followed to its site. -/
theorem eq_siteOf_of_locate {path : String} {location : Location}
    (h : store.locate path = .ok location) : location = store.siteOf path := by
  obtain ⟨parts, hparts, hlocate⟩ := Except.bind_eq_ok_iff.1 h
  rw [eq_foldl_of_foldlM_enter hlocate, siteOf, eq_of_partsOf hparts]

theorem isSome_of_isDirectory {location : Location}
    (h : store.tree.isDirectory location = true) : (store.tree.get? location).isSome = true := by
  rw [FileTree.isDirectory_iff.1 h]
  rfl

/-- Parts that could be followed still can if there is still something at their end. -/
theorem foldlM_enter_of_keeps (h : Keeps touched before after) {parts : List String}
    {location last : Location} (hfold : parts.foldlM before.enter location = .ok last)
    (hlast : (after.tree.get? last).isSome = true) :
    parts.foldlM after.enter location = .ok last := by
  induction parts generalizing location with
  | nil => exact hfold
  | cons part rest ih =>
      obtain ⟨next, hnext, hrest⟩ := Except.bind_eq_ok_iff.1 hfold
      obtain ⟨hdirectory, hsame, hname⟩ := enter_eq_ok_iff.1 hnext
      -- What is not the end of the walk is a directory, since the next part was entered from it.
      have hthere : (after.tree.get? next).isSome = true := by
        cases rest with
        | nil =>
            cases hrest
            exact hlast
        | cons part' rest' =>
            obtain ⟨_, hnext', -⟩ := Except.bind_eq_ok_iff.1 hrest
            exact isSome_of_isDirectory (h.directory next (enter_eq_ok_iff.1 hnext').1)
      have henter : after.enter location part = .ok next :=
        enter_eq_ok_iff.2
          ⟨h.directory location hdirectory, hsame, fun hpart => ⟨(hname hpart).1, hthere⟩⟩
      exact Except.bind_eq_ok_iff.2 ⟨next, henter, ih hrest⟩

theorem locate_of_keeps (h : Keeps touched before after) {path : String} {location : Location}
    (hlocate : before.locate path = .ok location)
    (hthere : (after.tree.get? location).isSome = true) :
    after.locate path = .ok location := by
  obtain ⟨parts, hparts, hfold⟩ := Except.bind_eq_ok_iff.1 hlocate
  rw [← h.origin] at hfold
  exact Except.bind_eq_ok_iff.2 ⟨parts, hparts, foldlM_enter_of_keeps h hfold hthere⟩

theorem read_eq_ok_iff {path : String} {content : ByteArray} :
    store.read path = .ok content ↔
      ∃ location, store.locate path = .ok location ∧
        store.tree.get? location = some (.file content) := by
  unfold read
  rw [Except.bind_eq_bind, Except.bind_eq_ok_iff]
  refine exists_congr fun location => and_congr_right fun _ => ?_
  cases store.tree.get? location with
  | none => simp
  | some entry => cases entry <;> simp

/-- A file that is read at an untouched site is still there, as it was. -/
theorem exists_locate_of_keeps (h : Keeps touched before after) {path : String}
    {content : ByteArray} (hread : before.read path = .ok content)
    (hsite : before.siteOf path ∉ touched) :
    ∃ location, before.locate path = .ok location ∧ after.locate path = .ok location ∧
      after.tree.get? location = some (.file content) := by
  obtain ⟨location, hlocate, hfile⟩ := read_eq_ok_iff.1 hread
  rw [← eq_siteOf_of_locate hlocate] at hsite
  have hkept := h.file location content hsite hfile
  refine ⟨location, hlocate, locate_of_keeps h hlocate ?_, hkept⟩
  rw [hkept]
  rfl

theorem read_of_keeps (h : Keeps touched before after) {path : String} {content : ByteArray}
    (hread : before.read path = .ok content) (hsite : before.siteOf path ∉ touched) :
    after.read path = .ok content := by
  obtain ⟨location, -, hlocate, hfile⟩ := exists_locate_of_keeps h hread hsite
  exact read_eq_ok_iff.2 ⟨location, hlocate, hfile⟩

theorem canonical_of_keeps (h : Keeps touched before after) {path : String} {content : ByteArray}
    (hread : before.read path = .ok content) (hsite : before.siteOf path ∉ touched) :
    after.canonical path = before.canonical path := by
  obtain ⟨location, hbefore, hafter, -⟩ := exists_locate_of_keeps h hread hsite
  rw [canonical, canonical, hbefore, hafter]

/-- The names of a path, without the empty parts after them. -/
def namesOf (parts : List String) : List String :=
  (parts.reverse.dropWhile (· == "")).reverse

theorem exists_append_namesOf (parts : List String) :
    ∃ blanks, parts = namesOf parts ++ blanks ∧ ∀ part ∈ blanks, part = "" := by
  refine ⟨(parts.reverse.takeWhile (· == "")).reverse, ?_, ?_⟩
  · rw [namesOf, ← List.reverse_append, List.takeWhile_append_dropWhile, List.reverse_reverse]
  · intro part hpart
    exact beq_iff_eq.1 (List.all_eq_true.1 List.all_takeWhile part (List.mem_reverse.1 hpart))

theorem place_eq_ok_iff {path name : String} {location : Location} {slash : Bool} :
    store.place path = .ok (location, name, slash) ↔
      ∃ parts, partsOf path = .ok parts ∧
        (namesOf parts).dropLast.foldlM store.enter (store.origin path) = .ok location ∧
        store.tree.isDirectory location = true ∧ (namesOf parts).getLast?.getD "" = name ∧
        decide ((namesOf parts).length < parts.length) = slash := by
  unfold place
  rw [Except.bind_eq_bind, Except.bind_eq_ok_iff]
  refine exists_congr fun parts => and_congr_right fun _ => ?_
  rw [Except.bind_eq_bind, Except.bind_eq_ok_iff]
  constructor
  · rintro ⟨found, hfound, h⟩
    split at h
    · cases h
    next hdirectory =>
      cases h
      exact ⟨hfound, by simpa using hdirectory, rfl, rfl⟩
  · rintro ⟨hfound, hdirectory, rfl, rfl⟩
    refine ⟨location, hfound, ?_⟩
    rw [if_neg (by simp [hdirectory])]
    rfl

theorem place_of_keeps (h : Keeps touched before after) {path name : String}
    {location : Location} {slash : Bool}
    (hplace : before.place path = .ok (location, name, slash)) :
    after.place path = .ok (location, name, slash) := by
  obtain ⟨parts, hparts, hfold, hdirectory, hname, hslash⟩ := place_eq_ok_iff.1 hplace
  have hkept := h.directory location hdirectory
  rw [← h.origin] at hfold
  exact place_eq_ok_iff.2 ⟨parts, hparts,
    foldlM_enter_of_keeps h hfold (isSome_of_isDirectory hkept), hkept, hname, hslash⟩

/-- The names of a path whose last name is one that a file can have. -/
theorem namesOf_eq_append {parts : List String} {name : String}
    (hname : (namesOf parts).getLast?.getD "" = name) (hspecial : isSpecial name = false) :
    namesOf parts = (namesOf parts).dropLast ++ [name] := by
  have hne : namesOf parts ≠ [] := by
    intro hnil
    rw [hnil] at hname
    subst hname
    exact absurd hspecial (by decide)
  rw [List.getLast?_eq_some_getLast hne, Option.getD_some] at hname
  rw [← hname]
  exact (List.dropLast_concat_getLast hne).symm

theorem nextLocation_of_isSpecial {name : String} (h : isSpecial name = false)
    (location : Location) : nextLocation location name = location ++ [name] := by
  simp only [isSpecial, List.mem_cons, List.not_mem_nil, or_false, decide_eq_false_iff_not,
    not_or] at h
  rw [nextLocation, if_neg (by simp [h]), if_neg h.2.2]

/-- A file that is written under a path is written at its site. -/
theorem append_eq_siteOf_of_place {path name : String} {location : Location} {slash : Bool}
    (h : store.place path = .ok (location, name, slash)) (hspecial : isSpecial name = false) :
    location ++ [name] = store.siteOf path := by
  obtain ⟨parts, hparts, hfold, -, hname, -⟩ := place_eq_ok_iff.1 h
  obtain ⟨blanks, hblanks, hblank⟩ := exists_append_namesOf parts
  -- The empty parts after the last name lead nowhere else.
  have hstay (start : Location) : blanks.foldl nextLocation start = start := by
    clear hblanks
    induction blanks with
    | nil => rfl
    | cons part rest ih =>
        rw [List.foldl_cons, hblank part List.mem_cons_self, nextLocation, if_pos (Or.inl rfl)]
        exact ih fun other hother => hblank other (List.mem_cons_of_mem _ hother)
  rw [siteOf, ← eq_of_partsOf hparts, hblanks, List.foldl_append, hstay,
    namesOf_eq_append hname hspecial, List.foldl_append, ← eq_foldl_of_foldlM_enter hfold]
  exact (nextLocation_of_isSpecial hspecial location).symm

/-- A path without a slash at its end leads to what stands under its last name. -/
theorem locate_of_place {path name : String} {location : Location}
    (h : store.place path = .ok (location, name, false)) (hspecial : isSpecial name = false)
    (hname : name.utf8ByteSize ≤ nameLimit)
    (hthere : (store.tree.get? (location ++ [name])).isSome = true) :
    store.locate path = .ok (location ++ [name]) := by
  obtain ⟨parts, hparts, hfold, hdirectory, hlast, hslash⟩ := place_eq_ok_iff.1 h
  obtain ⟨blanks, hblanks, -⟩ := exists_append_namesOf parts
  have hnames : namesOf parts = parts := by
    have hlength := congrArg List.length hblanks
    rw [List.length_append] at hlength
    have hnone : blanks = [] := by
      apply List.eq_nil_of_length_eq_zero
      have hle := of_decide_eq_false hslash
      omega
    rw [hnone, List.append_nil] at hblanks
    exact hblanks.symm
  have hparts' := namesOf_eq_append hlast hspecial
  rw [hnames] at hfold hparts'
  refine Except.bind_eq_ok_iff.2 ⟨parts, hparts, ?_⟩
  rw [hparts', List.foldlM_append, hfold]
  refine Except.bind_eq_ok_iff.2 ⟨location, rfl, ?_⟩
  have henter : store.enter location name = .ok (location ++ [name]) :=
    enter_eq_ok_iff.2 ⟨hdirectory, (nextLocation_of_isSpecial hspecial location).symm,
      fun _ => ⟨hname, hthere⟩⟩
  rw [List.foldlM_cons, henter]
  rfl

end Gamebook.FileStore
