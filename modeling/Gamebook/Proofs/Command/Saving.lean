import Gamebook.Proofs.Command.Loading
import Gamebook.Proofs.Form.SavedGames

/-! # Saving a game

A command that succeeds leaves its saved game under the path that it was given, and touches nothing
but that path and the one beside it under which the game was written first.
-/

namespace Gamebook

namespace Session

/-- A scene that is shown belongs to a card that is shown to the player. -/
theorem isScene_of_scene {session : Session} {scene : Scene} {r : session.document.Ref}
    (hnode : session.node = some r) (h : session.scene.answer = .ok scene) :
    session.document.IsScene r := by
  unfold Session.scene at h
  rw [hnode] at h
  dsimp only at h
  rw [Play.answer_bind] at h
  obtain ⟨step, hstep, h⟩ := Except.bind_eq_ok_iff.1 h
  unfold Document.loadStep at hstep
  split at hstep
  next htag => exact Or.inr htag
  next htag => exact Or.inl htag
  next =>
    rw [Play.answer_bind] at hstep
    obtain ⟨trigger, -, htrigger⟩ := Except.bind_eq_ok_iff.1 hstep
    cases htrigger
    cases h
  next => cases hstep

/-- A session that shows a scene is resumed from its own snapshot. -/
theorem resume_snapshot {session : Session} {scene : Scene} (h : session.scene.answer = .ok scene) :
    resume session.document session.encounters session.snapshot = .ok session := by
  obtain ⟨d, table, node, context⟩ := session
  cases node with
  | none => rfl
  | some r =>
      have hscene := isScene_of_scene rfl h
      exact resume_of_isScene hscene context

end Session

namespace Command

open FileStore

variable {store after : FileStore}

theorem keeps_runOn_bind {α β : Type} {touched : List Location}
    {first : Action (StateM FileStore) α} {next : α → Action (StateM FileStore) β}
    (hfirst : Keeps touched store (runOn first store).2)
    (hnext : ∀ a after, runOn first store = (.ok a, after) →
      Keeps touched after (runOn (next a) after).2) :
    Keeps touched store (runOn (first >>= next) store).2 := by
  cases hrun : runOn first store with
  | mk result after =>
      rw [hrun] at hfirst
      cases result with
      | ok a =>
          rw [runOn_bind_of_ok hrun]
          exact (hfirst.trans (hnext a after hrun)).mono (by simp)
      | error failure =>
          rw [runOn_bind_of_error hrun]
          exact hfirst

/-- The locations that saving under a path can change. -/
def savingSites (store : FileStore) (path : String) : List Location :=
  [store.siteOf (stagingPath path), store.siteOf path]

theorem savingSites_of_keeps {touched : List Location} (h : Keeps touched store after)
    (path : String) : savingSites after path = savingSites store path := by
  rw [savingSites, savingSites, h.siteOf, h.siteOf]

/-- Writes the text of a game and moves it to its place. -/
def putInPlace {m : Type → Type} [Monad m] [FileAccess m] (path : String) (game : SavedGame) :
    Action m PUnit := do
  orFail (.stateUnwritable (stagingPath path))
    (FileAccess.write (stagingPath path) game.text.toUTF8)
  orFail (.stateUnwritable path) (FileAccess.move (stagingPath path) path)

theorem saveGame_cases (path : String) (game : SavedGame) :
    Path.parents path = [] ∧
        (saveGame path game : Action (StateM FileStore) _) = putInPlace path game ∨
      ∃ parent outer, Path.parents path = parent :: outer ∧
        (saveGame path game : Action (StateM FileStore) _) =
          orFail (.stateUnwritable parent) (makeDirectories (parent :: outer)) >>= fun _ =>
            putInPlace path game := by
  unfold saveGame
  dsimp only
  split
  next hparents => exact Or.inl ⟨hparents, rfl⟩
  next parent outer hparents => exact Or.inr ⟨parent, outer, hparents, rfl⟩

theorem keeps_putInPlace (path : String) (game : SavedGame) (store : FileStore) :
    Keeps (savingSites store path) store (runOn (putInPlace path game) store).2 := by
  refine keeps_runOn_bind ?_ fun _ written hwrite => ?_
  · rw [runOn_orFail_snd]
    exact (keeps_run_update fun _ => write_keeps).mono (by simp [savingSites])
  · have hkeeps := write_keeps (run_update_eq_ok_iff.1 (runOn_orFail_eq_ok_iff.1 hwrite))
    rw [← savingSites_of_keeps hkeeps, runOn_orFail_snd]
    exact keeps_run_update fun _ => move_keeps

/-- Saving a game changes nothing but what stands under its path and under the staging path,
whether it succeeds or not. -/
theorem keeps_saveGame (path : String) (game : SavedGame) (store : FileStore) :
    Keeps (savingSites store path) store (runOn (saveGame path game) store).2 := by
  rcases saveGame_cases path game with ⟨-, heq⟩ | ⟨parent, outer, -, heq⟩
  · rw [heq]
    exact keeps_putInPlace path game store
  · rw [heq]
    have hmade := (grows_run_makeDirectories (parent :: outer) store).keeps
    refine keeps_runOn_bind ?_ fun _ after hrun => ?_
    · rw [runOn_orFail_snd]
      exact hmade.mono (by simp)
    · rw [runOn_orFail_eq_ok_iff.1 hrun] at hmade
      rw [← savingSites_of_keeps hmade]
      exact keeps_putInPlace path game after

/-- A game that was put in its place stands there. -/
theorem read_of_putInPlace {path : String} {game : SavedGame} {done : PUnit}
    (h : runOn (putInPlace path game) store = (.ok done, after)) :
    after.read path = .ok game.text.toUTF8 := by
  obtain ⟨_, written, hwrite, hmove⟩ := runOn_bind_eq_ok_iff.1 h
  have hwritten := run_update_eq_ok_iff.1 (runOn_orFail_eq_ok_iff.1 hwrite)
  have hmoved := run_update_eq_ok_iff.1 (runOn_orFail_eq_ok_iff.1 hmove)
  -- The staging path has the same site after the write, so what is moved is what was written.
  refine read_of_move hmoved ?_
  rw [(write_keeps hwritten).siteOf]
  exact get?_of_write hwritten

/-- A game that was saved stands under its path. -/
theorem read_of_saveGame {path : String} {game : SavedGame} {done : PUnit}
    (h : runOn (saveGame path game) store = (.ok done, after)) :
    after.read path = .ok game.text.toUTF8 := by
  rcases saveGame_cases path game with ⟨-, heq⟩ | ⟨parent, outer, -, heq⟩
  · rw [heq] at h
    exact read_of_putInPlace h
  · rw [heq] at h
    obtain ⟨_, made, -, hput⟩ := runOn_bind_eq_ok_iff.1 h
    exact read_of_putInPlace hput

/-- A step of play that is ended well shows a scene of the session and saves it. -/
theorem read_of_finish {quest : LoadedQuest} {session : Session}
    {parameters : Option EventParameters} {stateOut : String} {lines : List String}
    (h : runOn (finish quest session parameters stateOut) store = (.ok lines, after)) :
    (∃ scene, session.scene.answer = .ok scene ∧ lines = successLines scene parameters stateOut) ∧
      after.read stateOut = .ok (savedGame quest session).text.toUTF8 := by
  obtain ⟨scene, _, hofExcept, hsave⟩ := runOn_bind_eq_ok_iff.1 h
  obtain ⟨hscene, rfl⟩ := runOn_ofExcept_eq_ok_iff.1 hofExcept
  obtain ⟨_, _, hsaved, hdone⟩ := runOn_bind_eq_ok_iff.1 hsave
  obtain ⟨rfl, rfl⟩ := runOn_pure_eq_ok_iff.1 hdone
  exact ⟨⟨scene, hscene, rfl⟩, read_of_saveGame hsaved⟩

/-- From a store that has a quest, a game that was saved with it is taken up just as it was, if its
numbers can be read back. -/
theorem takeUp_of_stands {quest : LoadedQuest} {session : Session} {path : String} {scene : Scene}
    (hread : store.read path = .ok (savedGame quest session).text.toUTF8)
    (hstands : quest.Stands store) (hplays : Plays quest session)
    (hscene : session.scene.answer = .ok scene) (h : session.snapshot.ReadsBack) :
    runOn (loadGame path) store = (.ok (savedGame quest session), store) ∧
      runOn (takeUp (savedGame quest session)) store = (.ok (quest, session), store) := by
  have hgame : SavedGame.ofText (savedGame quest session).text = .ok (savedGame quest session) :=
    SavedGame.ofText_text h
  have hresume := Session.resume_snapshot hscene
  rw [hplays.encounters] at hresume
  constructor
  · exact runOn_loadGame_eq_ok_iff.2 ⟨⟨_, hread, hgame⟩, rfl, rfl⟩
  · exact runOn_takeUp_eq_ok_iff.2
      ⟨session.document, loadQuest_of_stands hstands, hplays.document, hresume⟩

theorem keeps_finish (quest : LoadedQuest) (session : Session)
    (parameters : Option EventParameters) (stateOut : String) (store : FileStore) :
    Keeps (savingSites store stateOut) store
      (runOn (finish quest session parameters stateOut) store).2 := by
  refine keeps_runOn_bind ?_ fun scene after hrun => ?_
  · rw [readsOnly_ofExcept]
    exact .refl store
  · obtain ⟨-, rfl⟩ := runOn_ofExcept_eq_ok_iff.1 hrun
    refine keeps_runOn_bind (keeps_saveGame stateOut _ after) fun _ saved _ => ?_
    rw [readsOnly_pure]
    exact .refl saved

/-- A command changes nothing but what stands under the path that it saves under and under the
staging path, whether it succeeds or not. -/
theorem keeps_perform (request : Request) (store : FileStore) :
    Keeps (savingSites store request.stateOut) store (runOn (perform request) store).2 := by
  have hadvance := readsOnly_advance request store
  rw [perform_eq_bind_finish]
  refine keeps_runOn_bind ?_ fun step after hrun => ?_
  · rw [hadvance]
    exact .refl store
  · rw [hrun] at hadvance
    subst hadvance
    exact keeps_finish _ _ _ _ _

end Command

end Gamebook
