import Gamebook.Proofs.Command.Saving

/-! # What a command that fails leaves behind

A command that fails before it saves changes no file. Saving has three stages, and where one fails
what the earlier ones did stays: the directories that the path needs, and the saved game under the
staging path. `sameEntries_iff_of_run` says exactly when nothing is left of them.
-/

namespace Gamebook.Command

open FileStore

variable {store after : FileStore} {path : String} {game : SavedGame} {failure : Failure}
  {request : Request}

/-- Saving a game fails at one of its stages and leaves what the stages before it did. -/
inductive SavingFails (store : FileStore) (path : String) (game : SavedGame) :
    FileStore → Prop where
  | making {made : FileStore} {error : FileError}
      (hmake : (makeDirectories (Path.parents path) : StateM FileStore _).run store =
        (.error error, made)) : SavingFails store path game made
  | staging {made : FileStore} {error : FileError}
      (hmake : (makeDirectories (Path.parents path) : StateM FileStore _).run store =
        (.ok ⟨⟩, made))
      (hwrite : made.write (stagingPath path) game.text.toUTF8 = .error error) :
      SavingFails store path game made
  | moving {made staged : FileStore} {error : FileError}
      (hmake : (makeDirectories (Path.parents path) : StateM FileStore _).run store =
        (.ok ⟨⟩, made))
      (hwrite : made.write (stagingPath path) game.text.toUTF8 = .ok staged)
      (hmove : staged.move (stagingPath path) path = .error error) :
      SavingFails store path game staged

/-- No directory is missing that could be made, and where all are there the game is not staged, or
is staged over the same text. -/
structure LeavesNoTrace (store : FileStore) (path : String) (game : SavedGame) : Prop where
  directories : store.makesOne (Path.parents path) = false
  staging : ∀ staged,
    (makeDirectories (Path.parents path) : StateM FileStore _).run store = (.ok ⟨⟩, store) →
    store.write (stagingPath path) game.text.toUTF8 = .ok staged →
    store.tree.get? (store.siteOf (stagingPath path)) = some (.file game.text.toUTF8)

theorem putInPlace_eq_error (h : runOn (putInPlace path game) store = (.error failure, after)) :
    (∃ place error, failure = .stateUnwritable place error) ∧
      ((∃ error, store.write (stagingPath path) game.text.toUTF8 = .error error ∧ after = store) ∨
        ∃ error, store.write (stagingPath path) game.text.toUTF8 = .ok after ∧
          after.move (stagingPath path) path = .error error) := by
  rcases runOn_bind_eq_error_iff.1 h with hstage | ⟨_, staged, hstage, hplace⟩
  · obtain ⟨error, hrun, rfl⟩ := runOn_orFail_eq_error_iff.1 hstage
    exact ⟨⟨_, error, rfl⟩, Or.inl ⟨error, run_update_eq_error_iff.1 hrun⟩⟩
  · obtain ⟨error, hrun, rfl⟩ := runOn_orFail_eq_error_iff.1 hplace
    obtain ⟨hmove, rfl⟩ := run_update_eq_error_iff.1 hrun
    have hwrite := run_update_eq_ok_iff.1 (runOn_orFail_eq_ok_iff.1 hstage)
    exact ⟨⟨_, error, rfl⟩, Or.inr ⟨error, hwrite, hmove⟩⟩

/-- Saving that fails does so at one of its stages, and says that the game could not be written. -/
theorem savingFails_of_saveGame (h : runOn (saveGame path game) store = (.error failure, after)) :
    (∃ place error, failure = .stateUnwritable place error) ∧
      SavingFails store path game after := by
  -- Without directories to make, making them is no step.
  have hput {made : FileStore}
      (hmake : (makeDirectories (Path.parents path) : StateM FileStore _).run store =
        (.ok ⟨⟩, made))
      (hput : runOn (putInPlace path game) made = (.error failure, after)) :
      (∃ place error, failure = .stateUnwritable place error) ∧
        SavingFails store path game after := by
    obtain ⟨hfailure, ⟨error, hwrite, rfl⟩ | ⟨error, hwrite, hmove⟩⟩ := putInPlace_eq_error hput
    · exact ⟨hfailure, .staging hmake hwrite⟩
    · exact ⟨hfailure, .moving hmake hwrite hmove⟩
  rcases saveGame_cases path game with ⟨hparents, heq⟩ | ⟨parent, outer, hparents, heq⟩
  · rw [heq] at h
    refine hput ?_ h
    rw [hparents]
    rfl
  · rw [heq] at h
    rcases runOn_bind_eq_error_iff.1 h with hdirs | ⟨_, made, hdirs, hplace⟩
    · obtain ⟨error, hrun, rfl⟩ := runOn_orFail_eq_error_iff.1 hdirs
      rw [← hparents] at hrun
      exact ⟨⟨_, error, rfl⟩, .making hrun⟩
    · have hrun := runOn_orFail_eq_ok_iff.1 hdirs
      rw [← hparents] at hrun
      exact hput hrun hplace

/-- The stages that were passed: the directories were made, and the game may have been staged. -/
theorem exists_made_of_savingFails (h : SavingFails store path game after) :
    ∃ made, ((makeDirectories (Path.parents path) : StateM FileStore _).run store).2 = made ∧
      (after = made ∨
        (makeDirectories (Path.parents path) : StateM FileStore _).run store = (.ok ⟨⟩, made) ∧
        made.write (stagingPath path) game.text.toUTF8 = .ok after) := by
  cases h with
  | making hmake =>
      rw [hmake]
      exact ⟨_, rfl, Or.inl rfl⟩
  | staging hmake hwrite =>
      rw [hmake]
      exact ⟨_, rfl, Or.inl rfl⟩
  | moving hmake hwrite hmove =>
      rw [hmake]
      exact ⟨_, rfl, Or.inr ⟨rfl, hwrite⟩⟩

/-- Where a file was written it stands, and nothing else has changed. -/
theorem entry_of_write {content : ByteArray} (h : store.write path content = .ok after)
    (location : Location) :
    after.tree.get? location = store.tree.get? location ∨
      location = store.siteOf path ∧ after.tree.get? location = some (.file content) := by
  obtain ⟨place, name, hplace, hspecial, -, -, rfl⟩ := write_eq_ok h
  rw [← append_eq_siteOf_of_place hplace hspecial, FileTree.get?_set _ (by simp)]
  split
  next heq => exact Or.inr ⟨heq, rfl⟩
  next => exact Or.inl rfl

/-- Saving that fails leaves everything as it was but for directories on the way and the staged
game. -/
theorem entry_of_savingFails (h : SavingFails store path game after) (location : Location) :
    after.tree.get? location = store.tree.get? location ∨
      (store.tree.get? location = none ∧ after.tree.get? location = some .directory ∧
        location ∈ (Path.parents path).map store.siteOf) ∨
      (location = store.siteOf (stagingPath path) ∧
        after.tree.get? location = some (.file game.text.toUTF8)) := by
  obtain ⟨made, hmade, hafter⟩ := exists_made_of_savingFails h
  have hgrows := grows_run_makeDirectories (Path.parents path) store
  rw [hmade] at hgrows
  rcases hafter with rfl | ⟨-, hwrite⟩
  · exact (hgrows.entry location).imp_right Or.inl
  · rcases entry_of_write hwrite location with hsame | ⟨hsite, hfile⟩
    · rw [hsame]
      exact (hgrows.entry location).imp_right Or.inl
    · rw [hgrows.keeps.siteOf] at hsite
      exact Or.inr (Or.inr ⟨hsite, hfile⟩)

/-- Saving that fails changes nothing exactly if it makes no directory and stages nothing new. -/
theorem sameEntries_iff_of_savingFails (h : SavingFails store path game after) :
    store.SameEntries after ↔ LeavesNoTrace store path game := by
  obtain ⟨made, hmade, hafter⟩ := exists_made_of_savingFails h
  cases hone : store.makesOne (Path.parents path) with
  | true =>
      refine iff_of_false ?_ fun htrace => ?_
      · intro hsame
        obtain ⟨parent, -, hfree, hdirectory⟩ := exists_made_of_makesOne hone
        rw [hmade] at hdirectory
        -- The directory that was made is still there when the game has been staged.
        have hthere : after.tree.isDirectory (store.siteOf parent) = true := by
          rw [← FileTree.isDirectory_iff] at hdirectory
          rcases hafter with rfl | ⟨-, hwrite⟩
          · exact hdirectory
          · exact (write_keeps hwrite).directory _ hdirectory
        rw [FileTree.isDirectory_iff, hsame, hfree] at hthere
        cases hthere
      · exact absurd (hone.symm.trans htrace.directories) (by decide)
  | false =>
      rw [run_makeDirectories_of_makesOne_eq_false hone] at hmade
      subst hmade
      constructor
      · intro hsame
        refine ⟨hone, fun staged hmake hwrite => ?_⟩
        cases h with
        | making hmake' =>
            rw [hmake] at hmake'
            cases hmake'
        | staging hmake' hwrite' =>
            rw [hmake] at hmake'
            cases hmake'
            rw [hwrite] at hwrite'
            cases hwrite'
        | moving hmake' hwrite' hmove =>
            rw [hmake] at hmake'
            cases hmake'
            rw [← hsame]
            exact get?_of_write hwrite'
      · intro htrace location
        rcases hafter with rfl | ⟨hmake, hwrite⟩
        · rfl
        · rcases entry_of_write hwrite location with hsame | ⟨rfl, hfile⟩
          · exact hsame
          · rw [hfile, htrace.staging after hmake hwrite]

/-- A command comes to save a game: its step of play succeeds and shows a scene. -/
def ComesToSave (request : Request) (store : FileStore) (game : SavedGame) : Prop :=
  ∃ quest session parameters scene,
    runOn (advance request) store = (.ok (quest, session, parameters), store) ∧
      session.scene.answer = .ok scene ∧ game = savedGame quest session

theorem eq_of_comesToSave {other : SavedGame} (h : ComesToSave request store game)
    (h' : ComesToSave request store other) : other = game := by
  obtain ⟨quest, session, parameters, scene, hadvance, -, rfl⟩ := h
  obtain ⟨quest', session', parameters', scene', hadvance', -, rfl⟩ := h'
  rw [hadvance] at hadvance'
  cases hadvance'
  rfl

theorem finish_eq_error {quest : LoadedQuest} {session : Session}
    {parameters : Option EventParameters} {stateOut : String}
    (h : runOn (finish quest session parameters stateOut) store = (.error failure, after)) :
    (after = store ∧ ∃ fault, session.scene.answer = .error fault) ∨
      ((∃ scene, session.scene.answer = .ok scene) ∧
        runOn (saveGame stateOut (savedGame quest session)) store = (.error failure, after)) := by
  rcases runOn_bind_eq_error_iff.1 h with hscene | ⟨scene, _, hscene, hrest⟩
  · obtain ⟨hfault, rfl⟩ := exists_error_of_runOn_ofExcept hscene
    exact Or.inl ⟨rfl, hfault⟩
  · obtain ⟨hshown, rfl⟩ := runOn_ofExcept_eq_ok_iff.1 hscene
    rcases runOn_bind_eq_error_iff.1 hrest with hsave | ⟨_, _, -, hdone⟩
    · exact Or.inr ⟨⟨scene, hshown⟩, hsave⟩
    · cases hdone

/-- A command fails before it comes to save and then changes nothing, or saving fails. -/
theorem perform_eq_error (h : runOn (perform request) store = (.error failure, after)) :
    (after = store ∧ ∀ game, ¬ ComesToSave request store game) ∨
      ∃ game, ComesToSave request store game ∧
        runOn (saveGame request.stateOut game) store = (.error failure, after) := by
  have hreads := readsOnly_advance request store
  rw [perform_eq_bind_finish] at h
  rcases runOn_bind_eq_error_iff.1 h with
    hadvance | ⟨⟨quest, session, parameters⟩, advanced, hadvance, hfinish⟩
  · rw [hadvance] at hreads
    refine Or.inl ⟨hreads, ?_⟩
    rintro game ⟨_, _, _, _, hsucceeds, -⟩
    rw [hadvance] at hsucceeds
    cases hsucceeds
  · rw [hadvance] at hreads
    dsimp only at hreads hfinish
    subst hreads
    rcases finish_eq_error hfinish with ⟨hafter, fault, hfault⟩ | ⟨⟨scene, hscene⟩, hsave⟩
    · refine Or.inl ⟨hafter, ?_⟩
      rintro game ⟨_, _, _, _, hsucceeds, hshows, -⟩
      rw [hadvance] at hsucceeds
      cases hsucceeds
      rw [hfault] at hshows
      cases hshows
    · exact Or.inr ⟨_, ⟨quest, session, parameters, scene, hadvance, hscene, rfl⟩, hsave⟩

/-- The number one is that of a command whose request fails. -/
theorem perform_of_run_eq_one {words : List String} {lines : List String}
    (h : (run words : StateM FileStore Outcome).run store = (⟨1, lines⟩, after)) :
    ∃ request, ∃ failure : Failure, read? words = some (.play request) ∧ lines = failure.lines ∧
      runOn (perform request) store = (.error failure, after) := by
  unfold run at h
  split at h
  · cases h
  · cases h
  · cases h
  next request hrequest =>
    cases hperform : runOn (perform request) store with
    | mk result last =>
        rw [run_bind_of_eq hperform] at h
        cases result with
        | ok shown => cases h
        | error failure =>
            cases h
            exact ⟨request, failure, hrequest, rfl, hperform⟩

/-- A command that ends with the number one has changed at most this: where there was nothing, there
may be directories that the path of the saved game needs, and under the staging path there may be
the game that was to be saved. Only a failure to write the game leaves anything at all; and the
files and directories are what they were exactly if the command did not come to save, or had no
directory to make and nothing new to stage. -/
theorem sameEntries_iff_of_run (words : List String) (store : FileStore) (lines : List String)
    (after : FileStore)
    (h : (run words : StateM FileStore Outcome).run store = (⟨1, lines⟩, after)) :
    ∃ request, ∃ failure : Failure, read? words = some (.play request) ∧ lines = failure.lines ∧
      ((∀ place error, failure ≠ .stateUnwritable place error) → after = store) ∧
      (∀ location, after.tree.get? location = store.tree.get? location ∨
        (store.tree.get? location = none ∧ after.tree.get? location = some .directory ∧
          location ∈ (Path.parents request.stateOut).map store.siteOf) ∨
        (location = store.siteOf (stagingPath request.stateOut) ∧
          ∃ game, ComesToSave request store game ∧
            after.tree.get? location = some (.file game.text.toUTF8))) ∧
      (store.SameEntries after ↔
        ∀ game, ComesToSave request store game → LeavesNoTrace store request.stateOut game) := by
  obtain ⟨request, failure, hrequest, hlines, hperform⟩ := perform_of_run_eq_one h
  refine ⟨request, failure, hrequest, hlines, ?_⟩
  rcases perform_eq_error hperform with ⟨rfl, hnone⟩ | ⟨game, hcomes, hsave⟩
  · refine ⟨fun _ => rfl, fun _ => Or.inl rfl, iff_of_true (fun _ => rfl) ?_⟩
    exact fun game hcomes => absurd hcomes (hnone game)
  · obtain ⟨⟨place, error, hfailure⟩, hfails⟩ := savingFails_of_saveGame hsave
    refine ⟨fun hother => absurd hfailure (hother place error), fun location => ?_, ?_⟩
    · rcases entry_of_savingFails hfails location with hsame | hmade | ⟨hsite, hfile⟩
      · exact Or.inl hsame
      · exact Or.inr (Or.inl hmade)
      · exact Or.inr (Or.inr ⟨hsite, game, hcomes, hfile⟩)
    · rw [sameEntries_iff_of_savingFails hfails]
      constructor
      · intro htrace other hother
        rwa [eq_of_comesToSave hcomes hother]
      · exact fun htrace => htrace game hcomes

/-- A store with one short quest and a directory. -/
def drawer : FileStore :=
  ⟨⟨[(["q"], .file "<quest><roleplay></roleplay></quest>".toUTF8), (["s"], .directory)]⟩, []⟩

/-- The quest cannot be saved over the directory, but the game stays under the staging path. -/
theorem sameEntries_iff_of_run_drawer :
    ∃ lines after,
      (run ["agent", "start", "--quest", "q", "--state-out", "s"] : StateM FileStore Outcome).run
        drawer = (⟨1, lines⟩, after) ∧
      ¬ drawer.SameEntries after ∧
      ∃ game, ComesToSave (.start "q" none "s") drawer game ∧ ¬ LeavesNoTrace drawer "s" game := by
  have hcode : ((run ["agent", "start", "--quest", "q", "--state-out", "s"] :
      StateM FileStore Outcome).run drawer).1.code = 1 := by
    decide +kernel
  have hstaged : (((run ["agent", "start", "--quest", "q", "--state-out", "s"] :
      StateM FileStore Outcome).run drawer).2.tree.get? ["s.partial"]).isSome = true := by
    decide +kernel
  have hread : read? ["agent", "start", "--quest", "q", "--state-out", "s"] =
      some (.play (.start "q" none "s")) := by
    decide +kernel
  cases hrun : (run ["agent", "start", "--quest", "q", "--state-out", "s"] :
      StateM FileStore Outcome).run drawer with
  | mk outcome after =>
      obtain ⟨code, lines⟩ := outcome
      rw [hrun] at hcode hstaged
      dsimp only at hcode hstaged
      subst hcode
      have hchanged : ¬ drawer.SameEntries after := by
        intro hsame
        rw [hsame] at hstaged
        cases hstaged
      obtain ⟨request, failure, hrequest, -, -, -, hiff⟩ :=
        sameEntries_iff_of_run _ drawer lines after hrun
      rw [hread] at hrequest
      cases hrequest
      refine ⟨lines, after, rfl, hchanged, ?_⟩
      obtain ⟨game, hgame⟩ := Classical.not_forall.1 (mt hiff.2 hchanged)
      obtain ⟨hcomes, htrace⟩ := Classical.not_imp.1 hgame
      exact ⟨game, hcomes, htrace⟩

end Gamebook.Command
