import Gamebook.Proofs.Files.Changes

/-! # Directories that are made on the way

Before a file is written the directories that its path needs are made. `Grows` says that a store has
got directories at certain locations and is otherwise what it was. `makesOne` tells from the store
alone whether any directory is made; if not, the store stays as it is, even where making fails.
-/

namespace Gamebook.FileStore

/-- A later store has the same files and directories as an earlier one. -/
def SameEntries (before after : FileStore) : Prop :=
  ∀ location, after.tree.get? location = before.tree.get? location

/-- A later store has what an earlier one has, and directories at some of the given locations where
there was nothing. -/
structure Grows (made : List Location) (before after : FileStore) : Prop where
  current : after.current = before.current
  entry : ∀ location, after.tree.get? location = before.tree.get? location ∨
    before.tree.get? location = none ∧ after.tree.get? location = some .directory ∧
      location ∈ made

/-- Whether making directories, where each lies in the next, makes one: those that come before it
want for the next. -/
def makesOne (store : FileStore) : List String → Bool
  | [] => false
  | path :: outer =>
    match store.makeDirectory path with
    | .ok _ => true
    | .error error => error.isMissing && store.makesOne outer

variable {store before after : FileStore} {made : List Location} {path : String}

theorem Grows.refl (store : FileStore) : Grows made store store :=
  ⟨rfl, fun _ => Or.inl rfl⟩

theorem Grows.trans {last : FileStore} {later : List Location} (h : Grows made before after)
    (h' : Grows later after last) : Grows (made ++ later) before last where
  current := h'.current.trans h.current
  entry location := by
    rcases h'.entry location with hsame | ⟨hfree, hnew, hmem⟩
    · rw [hsame]
      exact (h.entry location).imp_right fun hmade =>
        ⟨hmade.1, hmade.2.1, List.mem_append_left _ hmade.2.2⟩
    · rcases h.entry location with hsame | ⟨-, hmade, -⟩
      · rw [← hsame]
        exact Or.inr ⟨hfree, hnew, List.mem_append_right _ hmem⟩
      · rw [hfree] at hmade
        cases hmade

theorem Grows.mono {more : List Location} (h : Grows made before after)
    (hsub : ∀ location ∈ made, location ∈ more) : Grows more before after :=
  ⟨h.current, fun location => (h.entry location).imp_right fun hmade =>
    ⟨hmade.1, hmade.2.1, hsub location hmade.2.2⟩⟩

/-- What stands in a store that has grown from another still stands there. -/
theorem Grows.get?_of_some (h : Grows made before after) {location : Location} {entry : FileEntry}
    (hentry : before.tree.get? location = some entry) :
    after.tree.get? location = some entry := by
  rcases h.entry location with hsame | ⟨hfree, -, -⟩
  · rw [hsame, hentry]
  · rw [hfree] at hentry
    cases hentry

/-- A store that has only got more directories still has all directories and files. -/
theorem Grows.keeps (h : Grows made before after) : Keeps [] before after where
  current := h.current
  directory location hdirectory := by
    rw [FileTree.isDirectory_iff] at hdirectory ⊢
    exact h.get?_of_some hdirectory
  file location content _ hfile := h.get?_of_some hfile

/-- A directory is made at the site of its path, where there was nothing. -/
theorem makeDirectory_eq_ok (h : store.makeDirectory path = .ok after) :
    store.siteOf path ≠ [] ∧ store.tree.get? (store.siteOf path) = none ∧
      after = { store with tree := store.tree.set (store.siteOf path) .directory } := by
  obtain ⟨⟨location, name, slash⟩, hplace, h⟩ := Except.bind_eq_ok_iff.1 h
  dsimp only at h
  split at h
  · cases h
  next hspecial =>
    rw [append_eq_siteOf_of_place hplace (Bool.eq_false_iff.2 hspecial)] at h
    have hne : store.siteOf path ≠ [] := by
      rw [← append_eq_siteOf_of_place hplace (Bool.eq_false_iff.2 hspecial)]
      simp
    split at h
    · cases h
    · split at h
      · cases h
      next hfree =>
        cases h
        exact ⟨hne, by simpa using hfree, rfl⟩

/-- A directory that was made stands at the site of its path. -/
theorem get?_of_makeDirectory (h : store.makeDirectory path = .ok after) :
    store.tree.get? (store.siteOf path) = none ∧
      after.tree.get? (store.siteOf path) = some .directory := by
  obtain ⟨hne, hfree, rfl⟩ := makeDirectory_eq_ok h
  refine ⟨hfree, ?_⟩
  rw [FileTree.get?_set _ hne, if_pos rfl]

theorem grows_of_makeDirectory (h : store.makeDirectory path = .ok after) :
    Grows [store.siteOf path] store after := by
  obtain ⟨hne, hfree, rfl⟩ := makeDirectory_eq_ok h
  refine ⟨rfl, fun location => ?_⟩
  rw [FileTree.get?_set _ hne]
  split
  next heq =>
    rw [heq]
    exact Or.inr ⟨hfree, rfl, List.mem_singleton_self _⟩
  next => exact Or.inl rfl

theorem run_makeDirectory (path : String) (store : FileStore) :
    (FileAccess.makeDirectory path : StateM FileStore _).run store =
      match store.makeDirectory path with
      | .ok after => (.ok ⟨⟩, after)
      | .error error => (.error error, store) :=
  run_update _ store

theorem grows_run_makeDirectory (path : String) (store : FileStore) :
    Grows [store.siteOf path] store
      ((FileAccess.makeDirectory path : StateM FileStore _).run store).2 := by
  rw [run_makeDirectory]
  split
  next after hafter => exact grows_of_makeDirectory hafter
  next => exact .refl store

theorem grows_run_ensureDirectory (path : String) (store : FileStore) :
    Grows [store.siteOf path] store
      ((ensureDirectory path : StateM FileStore _).run store).2 := by
  have hmake := grows_run_makeDirectory path store
  rw [run_ensureDirectory]
  generalize (FileAccess.makeDirectory path : StateM FileStore _).run store = made at hmake ⊢
  obtain ⟨result, after⟩ := made
  cases result <;> exact hmake

/-- Making directories makes them at the sites of their paths. -/
theorem grows_run_makeDirectories (paths : List String) (store : FileStore) :
    Grows (paths.map store.siteOf) store
      ((makeDirectories paths : StateM FileStore _).run store).2 := by
  induction paths with
  | nil => exact .refl store
  | cons path outer ih =>
      rw [run_makeDirectories_cons, run_makeDirectory, List.map_cons]
      cases hmake : store.makeDirectory path with
      | ok after => exact (grows_of_makeDirectory hmake).mono (by simp)
      | error error =>
          dsimp only
          split
          · generalize (makeDirectories outer : StateM FileStore _).run store = rest at ih ⊢
            obtain ⟨result, last⟩ := rest
            have houter : Grows (store.siteOf path :: outer.map store.siteOf) store last :=
              ih.mono fun _ => List.mem_cons_of_mem _
            cases result with
            | error error => exact houter
            | ok =>
                have hlast := grows_run_ensureDirectory path last
                rw [ih.keeps.siteOf] at hlast
                refine (houter.trans hlast).mono fun location hmem => ?_
                rcases List.mem_append.1 hmem with hmem | hmem
                · exact hmem
                · exact List.mem_cons.2 (Or.inl (List.mem_singleton.1 hmem))
          · exact .refl store

/-- Where no directory is made the store stays as it is, whether all are there or one cannot be
made. -/
theorem run_makeDirectories_of_makesOne_eq_false {paths : List String}
    (h : store.makesOne paths = false) :
    ((makeDirectories paths : StateM FileStore _).run store).2 = store := by
  induction paths with
  | nil => rfl
  | cons path outer ih =>
      rw [makesOne] at h
      rw [run_makeDirectories_cons, run_makeDirectory]
      cases hmake : store.makeDirectory path with
      | ok after =>
          rw [hmake] at h
          cases h
      | error error =>
          rw [hmake] at h
          dsimp only at h ⊢
          split
          next hmissing =>
            rw [hmissing, Bool.true_and] at h
            have houter := ih h
            generalize (makeDirectories outer : StateM FileStore _).run store = rest at houter ⊢
            obtain ⟨result, last⟩ := rest
            dsimp only at houter
            subst houter
            cases result with
            | error error => rfl
            | ok =>
                dsimp only
                rw [run_ensureDirectory, run_makeDirectory, hmake]
          next => rfl

/-- Where a directory is made it stands at the site of one of the paths, and there was nothing. -/
theorem exists_made_of_makesOne {paths : List String} (h : store.makesOne paths = true) :
    ∃ path ∈ paths, store.tree.get? (store.siteOf path) = none ∧
      ((makeDirectories paths : StateM FileStore _).run store).2.tree.get? (store.siteOf path) =
        some .directory := by
  induction paths with
  | nil => cases h
  | cons path outer ih =>
      rw [makesOne] at h
      rw [run_makeDirectories_cons, run_makeDirectory]
      cases hmake : store.makeDirectory path with
      | ok after => exact ⟨path, List.mem_cons_self, get?_of_makeDirectory hmake⟩
      | error error =>
          rw [hmake] at h
          obtain ⟨hmissing, houter⟩ := Bool.and_eq_true_iff.1 h
          obtain ⟨first, hfirst, hfree, hmade⟩ := ih houter
          refine ⟨first, List.mem_cons_of_mem _ hfirst, hfree, ?_⟩
          dsimp only
          rw [if_pos hmissing]
          generalize (makeDirectories outer : StateM FileStore _).run store = rest at hmade ⊢
          obtain ⟨result, last⟩ := rest
          -- The directory that was made first is still there after the ones within it.
          cases result with
          | error error => exact hmade
          | ok => exact (grows_run_ensureDirectory path last).get?_of_some hmade

end Gamebook.FileStore
