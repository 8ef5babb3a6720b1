import Gamebook.Files.Access
import Gamebook.Proofs.Files.Sites

/-! # Changes to a store of files

A file that is written or moved leaves the directories and the files at other sites alone.
`read_of_move` says that a file that was moved is read under its new path, and
`run_makeDirectories_cons` how directories are made one after the other.
-/

namespace Gamebook

namespace FileStore

variable {store after : FileStore} {path source target : String} {content : ByteArray}

/-- A file is written at the site of its path, which leads to it without a slash at its end. -/
theorem write_eq_ok (h : store.write path content = .ok after) :
    ∃ location name, store.place path = .ok (location, name, false) ∧ isSpecial name = false ∧
      name.utf8ByteSize ≤ nameLimit ∧ store.tree.isDirectory (location ++ [name]) = false ∧
      after = { store with tree := store.tree.set (location ++ [name]) (.file content) } := by
  obtain ⟨⟨location, name, slash⟩, hplace, h⟩ := Except.bind_eq_ok_iff.1 h
  dsimp only at h
  split at h
  · cases h
  next hname =>
    split at h
    · cases h
    next hshort =>
      split at h
      · cases h
      next hdirectory =>
        cases h
        simp only [Bool.or_eq_true, not_or, Bool.not_eq_true] at hname
        obtain ⟨hspecial, rfl⟩ := hname
        exact ⟨location, name, hplace, hspecial, Nat.le_of_not_lt hshort,
          Bool.eq_false_iff.2 hdirectory, rfl⟩

/-- Setting a file where there is no directory keeps all that stands elsewhere. -/
theorem keeps_set {location : Location} (hne : location ≠ [])
    (hdirectory : store.tree.isDirectory location = false) :
    Keeps [location] store { store with tree := store.tree.set location (.file content) } := by
  refine ⟨rfl, ?_, ?_⟩
  · intro other hother
    have hdiffers : other ≠ location := by
      rintro rfl
      rw [hdirectory] at hother
      cases hother
    rw [FileTree.isDirectory_iff] at hother ⊢
    rw [FileTree.get?_set _ hne, if_neg hdiffers, hother]
  · intro other old hother hfile
    rw [FileTree.get?_set _ hne, if_neg (by simpa using hother), hfile]

theorem write_keeps (h : store.write path content = .ok after) :
    Keeps [store.siteOf path] store after := by
  obtain ⟨location, name, hplace, hspecial, -, hdirectory, rfl⟩ := write_eq_ok h
  rw [← append_eq_siteOf_of_place hplace hspecial]
  exact keeps_set (by simp) hdirectory

/-- What was written stands at the site of its path. -/
theorem get?_of_write (h : store.write path content = .ok after) :
    after.tree.get? (store.siteOf path) = some (.file content) := by
  obtain ⟨location, name, hplace, hspecial, -, -, rfl⟩ := write_eq_ok h
  rw [← append_eq_siteOf_of_place hplace hspecial, FileTree.get?_set _ (by simp), if_pos rfl]

/-- A file is moved from the site of one path to that of another. -/
theorem move_eq_ok (h : store.move source target = .ok after) :
    ∃ content location name, store.tree.get? (store.siteOf source) = some (.file content) ∧
      store.siteOf source ≠ [] ∧
      store.place target = .ok (location, name, false) ∧ isSpecial name = false ∧
      name.utf8ByteSize ≤ nameLimit ∧ store.tree.isDirectory (location ++ [name]) = false ∧
      after = { store with
        tree := (store.tree.erase (store.siteOf source)).set (location ++ [name])
          (.file content) } := by
  obtain ⟨⟨fromLocation, fromName, fromSlash⟩, hfrom, h⟩ := Except.bind_eq_ok_iff.1 h
  obtain ⟨⟨toLocation, toName, toSlash⟩, hto, h⟩ := Except.bind_eq_ok_iff.1 h
  dsimp only at h
  split at h
  · cases h
  next hspecial =>
    simp only [Bool.or_eq_true, not_or, Bool.not_eq_true] at hspecial
    rw [append_eq_siteOf_of_place hfrom hspecial.1] at h
    have hne : store.siteOf source ≠ [] := by
      rw [← append_eq_siteOf_of_place hfrom hspecial.1]
      simp
    split at h
    · cases h
    · cases h
    next content hcontent =>
      split at h
      · cases h
      next hshort =>
        split at h
        · cases h
        next hslash =>
          split at h
          · cases h
          next hdirectory =>
            cases h
            simp only [Bool.or_eq_true, not_or, Bool.not_eq_true] at hslash
            obtain ⟨-, rfl⟩ := hslash
            exact ⟨content, toLocation, toName, hcontent, hne, hto, hspecial.2,
              Nat.le_of_not_lt hshort, Bool.eq_false_iff.2 hdirectory, rfl⟩

theorem move_keeps (h : store.move source target = .ok after) :
    Keeps [store.siteOf source, store.siteOf target] store after := by
  obtain ⟨content, location, name, hsource, hne, hplace, hspecial, -, hdirectory, rfl⟩ :=
    move_eq_ok h
  rw [← append_eq_siteOf_of_place hplace hspecial]
  refine ⟨rfl, ?_, ?_⟩
  · intro other hother
    have htarget : other ≠ location ++ [name] := by
      rintro rfl
      rw [hdirectory] at hother
      cases hother
    rw [FileTree.isDirectory_iff] at hother ⊢
    have hfrom : other ≠ store.siteOf source := by
      rintro rfl
      rw [hsource] at hother
      cases hother
    rw [FileTree.get?_set _ (by simp), if_neg htarget, FileTree.get?_erase _ hne, if_neg hfrom,
      hother]
  · intro other old hother hfile
    simp only [List.mem_cons, List.not_mem_nil, or_false, not_or] at hother
    rw [FileTree.get?_set _ (by simp), if_neg hother.2, FileTree.get?_erase _ hne,
      if_neg hother.1, hfile]

/-- A file that was moved is read under its new path. -/
theorem read_of_move (h : store.move source target = .ok after)
    (hsource : store.tree.get? (store.siteOf source) = some (.file content)) :
    after.read target = .ok content := by
  have hkeeps := move_keeps h
  obtain ⟨_, location, name, hcontent, -, hplace, hspecial, hname, -, rfl⟩ := move_eq_ok h
  rw [hsource] at hcontent
  cases hcontent
  -- The file was placed before the change, but the way to it is only made of directories.
  have hthere : ((store.tree.erase (store.siteOf source)).set (location ++ [name])
      (.file content)).get? (location ++ [name]) = some (.file content) := by
    rw [FileTree.get?_set _ (by simp), if_pos rfl]
  refine read_eq_ok_iff.2 ⟨location ++ [name], ?_, hthere⟩
  refine locate_of_place (place_of_keeps hkeeps hplace) hspecial hname ?_
  rw [hthere]
  rfl

/-! ## Operations of commands -/

/-- What follows an operation runs on the store that the operation leaves. -/
theorem run_bind_of_eq {α β : Type} {first : StateM FileStore α} {next : α → StateM FileStore β}
    {a : α} (h : first.run store = (a, after)) :
    (first >>= next).run store = (next a).run after := by
  rw [StateT.run_bind, h]
  rfl

theorem run_update (operation : FileStore → Except FileError FileStore) (store : FileStore) :
    (update operation).run store =
      match operation store with
      | .ok after => (.ok ⟨⟩, after)
      | .error error => (.error error, store) := by
  cases h : operation store <;> simp [update, h] <;> rfl

theorem run_update_eq_ok_iff {operation : FileStore → Except FileError FileStore} {done : PUnit} :
    (update operation).run store = (.ok done, after) ↔ operation store = .ok after := by
  rw [run_update]
  cases operation store with
  | ok changed =>
      constructor
      · intro h
        cases h
        rfl
      · intro h
        cases h
        rfl
  | error error =>
      constructor
      · intro h
        cases h
      · intro h
        cases h

theorem run_update_eq_error_iff {operation : FileStore → Except FileError FileStore}
    {error : FileError} :
    (update operation).run store = (.error error, after) ↔
      operation store = .error error ∧ after = store := by
  rw [run_update]
  cases operation store with
  | ok changed =>
      constructor
      · intro h
        cases h
      · rintro ⟨h, -⟩
        cases h
  | error found =>
      constructor
      · intro h
        cases h
        exact ⟨rfl, rfl⟩
      · rintro ⟨h, rfl⟩
        cases h
        rfl

theorem keeps_run_update {touched : List Location}
    {operation : FileStore → Except FileError FileStore}
    (h : ∀ after, operation store = .ok after → Keeps touched store after) :
    Keeps touched store ((update operation).run store).2 := by
  rw [run_update]
  split
  next after hafter => exact h after hafter
  next => exact .refl store

@[simp]
theorem run_kind? (path : String) (store : FileStore) :
    (FileAccess.kind? path : StateM FileStore _).run store =
      ((store.entryAt? path).map kindOf, store) := rfl

@[simp]
theorem run_read (path : String) (store : FileStore) :
    (FileAccess.read path : StateM FileStore _).run store = (store.read path, store) := rfl

@[simp]
theorem run_canonical (path : String) (store : FileStore) :
    (FileAccess.canonical path : StateM FileStore _).run store =
      (store.canonical path, store) := rfl

/-- Whether a path leads to a directory of a store. -/
def leadsToDirectory (store : FileStore) (path : String) : Bool :=
  (store.entryAt? path).map kindOf == some .directory

/-- Asking whether a path leads to a directory changes nothing. -/
theorem run_ite_isDirectoryAt {α : Type} (path : String) (yes no : α) (store : FileStore) :
    (do if ← isDirectoryAt path then return yes else return no : StateM FileStore α).run store =
      (if store.leadsToDirectory path then yes else no, store) := by
  have hrun : (isDirectoryAt path : StateM FileStore _).run store =
      (store.leadsToDirectory path, store) := rfl
  rw [StateT.run_bind, hrun]
  cases hdirectory : store.leadsToDirectory path <;> rfl

theorem run_ensureDirectory (path : String) (store : FileStore) :
    (ensureDirectory path : StateM FileStore _).run store =
      match (FileAccess.makeDirectory path : StateM FileStore _).run store with
      | (.ok _, after) => (.ok ⟨⟩, after)
      | (.error error, after) =>
        (if after.leadsToDirectory path then .ok ⟨⟩ else .error error, after) := by
  unfold ensureDirectory
  cases hmade : (FileAccess.makeDirectory path : StateM FileStore _).run store with
  | mk result after =>
      rw [run_bind_of_eq hmade]
      cases result with
      | ok => rfl
      | error error => exact run_ite_isDirectoryAt path _ _ after

theorem run_makeDirectories_cons (path : String) (outer : List String) (store : FileStore) :
    (makeDirectories (path :: outer) : StateM FileStore _).run store =
      match (FileAccess.makeDirectory path : StateM FileStore _).run store with
      | (.ok _, after) => (.ok ⟨⟩, after)
      | (.error error, after) =>
        if error.isMissing then
          match (makeDirectories outer : StateM FileStore _).run after with
          | (.ok _, last) => (ensureDirectory path : StateM FileStore _).run last
          | (.error error, last) => (.error error, last)
        else (if after.leadsToDirectory path then .ok ⟨⟩ else .error error, after) := by
  conv => lhs; unfold makeDirectories
  cases hmade : (FileAccess.makeDirectory path : StateM FileStore _).run store with
  | mk result after =>
      rw [run_bind_of_eq hmade]
      cases result with
      | ok => rfl
      | error error =>
          dsimp only
          by_cases hmissing : error.isMissing = true
          · rw [if_pos hmissing, if_pos hmissing]
            cases hrest : (makeDirectories outer : StateM FileStore _).run after with
            | mk result last =>
                rw [run_bind_of_eq hrest]
                cases result <;> rfl
          · rw [if_neg hmissing, if_neg hmissing]
            exact run_ite_isDirectoryAt path _ _ after

end FileStore

end Gamebook
