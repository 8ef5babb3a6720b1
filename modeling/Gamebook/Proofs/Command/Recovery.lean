import Gamebook.Proofs.Command.Saving

/-! # Games that can be taken up again

After a command that succeeds play can go on from what the command has saved, unless a number among
the variables cannot be read back. `recovers_iff_of_perform` says so for every command in a chain of
commands on any store of files.
-/

namespace Gamebook.Command

open FileStore

variable {store after : FileStore}

/-- The store after one command after the other, whether they succeed or not. -/
def performAll (requests : List Request) (store : FileStore) : FileStore :=
  requests.foldl (fun store request => (runOn (perform request) store).2) store

/-- Commands leave the working directory as it is. -/
theorem current_performAll (requests : List Request) (store : FileStore) :
    (performAll requests store).current = store.current := by
  induction requests generalizing store with
  | nil => rfl
  | cons request rest ih => exact (ih _).trans (keeps_perform request store).current

/-- From the files of a store the game saved under a path is read, its quest is loaded and its
session resumed, and nothing is lost of the snapshot on the way. -/
def Recovers (store : FileStore) (path : String) (snapshot : Snapshot) : Prop :=
  ∃ game quest session, runOn (loadGame path) store = (.ok game, store) ∧
    game.snapshot = snapshot ∧ runOn (takeUp game) store = (.ok (quest, session), store) ∧
    session.snapshot = snapshot

/-- A game that was saved is recovered if its quest stands in the store and its numbers can be read
back. -/
theorem recovers_of_stands {quest : LoadedQuest} {session : Session} {path : String} {scene : Scene}
    (hread : store.read path = .ok (savedGame quest session).text.toUTF8)
    (hstands : quest.Stands store) (hplays : Plays quest session)
    (hscene : session.scene.answer = .ok scene) (h : session.snapshot.ReadsBack) :
    Recovers store path session.snapshot := by
  obtain ⟨hload, htakeUp⟩ := takeUp_of_stands hread hstands hplays hscene h
  exact ⟨savedGame quest session, quest, session, hload, rfl, htakeUp, rfl⟩

/-- A game that is recovered was saved with numbers that can be read back. -/
theorem readsBack_of_recovers {quest : LoadedQuest} {session : Session} {path : String}
    (hread : store.read path = .ok (savedGame quest session).text.toUTF8)
    (h : Recovers store path session.snapshot) : session.snapshot.ReadsBack := by
  obtain ⟨game, _, _, hload, hsnapshot, -, -⟩ := h
  obtain ⟨⟨text, htext, hgame⟩, -, -⟩ := runOn_loadGame_eq_ok_iff.1 hload
  rw [hread, Except.ok.injEq] at htext
  rw [← String.toByteArray_inj.1 htext] at hgame
  exact SavedGame.exists_ofText_iff.1 ⟨game, hgame, hsnapshot⟩

/-- Whenever a command of a chain succeeds, without saving over the files of its quest, what it has
saved can be taken up from the files as they are left exactly if every number among the variables is
finite and is read back from its digits, and the number of the node fits into sixty-four bits. -/
theorem recovers_iff_of_perform (store : FileStore) (hnamed : store.Named)
    (earlier : List Request) (request : Request) (lines : List String) (after : FileStore)
    (h : runOn (perform request) (performAll earlier store) = (.ok lines, after)) :
    ∃ quest session parameters,
      runOn (advance request) (performAll earlier store) =
        (.ok (quest, session, parameters), performAll earlier store) ∧
      ((∀ path ∈ quest.paths, store.siteOf path ∉ savingSites store request.stateOut) →
        (Recovers after request.stateOut session.snapshot ↔ session.snapshot.ReadsBack)) := by
  have hcurrent := current_performAll earlier store
  have hkeeps := keeps_perform request (performAll earlier store)
  -- A site depends on the working directory alone, which no command changes.
  have hsites (path : String) : (performAll earlier store).siteOf path = store.siteOf path := by
    rw [siteOf, siteOf, origin, origin, hcurrent]
  generalize performAll earlier store = before at h hcurrent hkeeps hsites ⊢
  have hnamed' : before.Named := by
    rw [Named, hcurrent]
    exact hnamed
  rw [h] at hkeeps
  rw [perform_eq_bind_finish] at h
  obtain ⟨⟨quest, session, parameters⟩, advanced, hadvance, hfinish⟩ := runOn_bind_eq_ok_iff.1 h
  obtain ⟨rfl, hstands, hplays⟩ := stands_of_advance hnamed' hadvance
  obtain ⟨⟨scene, hscene, -⟩, hread⟩ := read_of_finish hfinish
  refine ⟨quest, session, parameters, hadvance, fun hapart => ⟨readsBack_of_recovers hread, ?_⟩⟩
  refine recovers_of_stands hread (hstands.keeps hkeeps ?_) hplays hscene
  intro path hpath
  rw [savingSites, hsites, hsites, hsites]
  exact hapart path hpath

/-- A store with one short quest. -/
def shelf : FileStore :=
  ⟨⟨[(["q"], .file "<quest><roleplay></roleplay></quest>".toUTF8)]⟩, []⟩

/-- Starting the quest leaves a game from which play goes on at its only card. -/
theorem recovers_iff_of_perform_shelf :
    ∃ lines after, runOn (perform (.start "q" none "s")) shelf = (.ok lines, after) ∧
      Recovers after "s" ⟨some 1, .empty, false⟩ := by
  have hsome : ((runOn (perform (.start "q" none "s")) shelf).1.toOption).isSome = true := by
    decide +kernel
  have hstep : (runOn (advance (.start "q" none "s")) shelf).1.toOption.map
      (fun step => (step.1.paths, step.2.1.snapshot)) =
      some (["/q"], ⟨some 1, .empty, false⟩) := by
    decide +kernel
  cases hrun : runOn (perform (.start "q" none "s")) shelf with
  | mk result after =>
      rw [hrun] at hsome
      cases result with
      | error failure => cases hsome
      | ok lines =>
          obtain ⟨quest, session, parameters, hadvance, hrecovers⟩ :=
            recovers_iff_of_perform shelf (by intro name h; cases h) [] _ lines after hrun
          change runOn (advance (.start "q" none "s")) shelf = _ at hadvance
          rw [hadvance] at hstep
          obtain ⟨hpaths, hsnapshot⟩ := Prod.mk.inj (Option.some.inj hstep)
          rw [hpaths, hsnapshot] at hrecovers
          refine ⟨lines, after, rfl, (hrecovers ?_).2 ⟨?_, ?_⟩⟩
          · decide +kernel
          · intro number h
            cases h
            decide
          · intro name x h
            cases h

end Gamebook.Command
