import Gamebook.Command.Run
import Gamebook.Proofs.Files.Canonical
import Gamebook.Proofs.Files.Growth

/-! # Actions on a store of files

What a command does to a store is taken apart into the steps that it is made of: an action succeeds
if all of its steps do, each on the store that the one before it has left, and fails if one of them
does.
-/

namespace Gamebook.Command

open FileStore

variable {α β : Type} {store after last : FileStore}

/-- What comes of an action on a store of files, and the store that it leaves. -/
def runOn (action : Action (StateM FileStore) α) (store : FileStore) :
    Except Failure α × FileStore :=
  StateT.run (ExceptT.run action) store

theorem runOn_bind_of_ok {first : Action (StateM FileStore) α}
    {next : α → Action (StateM FileStore) β} {a : α} (h : runOn first store = (.ok a, after)) :
    runOn (first >>= next) store = runOn (next a) after := by
  rw [runOn, ExceptT.run_bind]
  exact run_bind_of_eq h

theorem runOn_bind_of_error {first : Action (StateM FileStore) α}
    {next : α → Action (StateM FileStore) β} {failure : Failure}
    (h : runOn first store = (.error failure, after)) :
    runOn (first >>= next) store = (.error failure, after) := by
  rw [runOn, ExceptT.run_bind]
  exact run_bind_of_eq h

/-- Two steps succeed if the first does, and the second on the store that the first has left. -/
theorem runOn_bind_eq_ok_iff {first : Action (StateM FileStore) α}
    {next : α → Action (StateM FileStore) β} {b : β} :
    runOn (first >>= next) store = (.ok b, last) ↔
      ∃ a after, runOn first store = (.ok a, after) ∧ runOn (next a) after = (.ok b, last) := by
  cases h : runOn first store with
  | mk result after =>
      cases result with
      | ok a =>
          rw [runOn_bind_of_ok h]
          constructor
          · exact fun hnext => ⟨a, after, rfl, hnext⟩
          · rintro ⟨_, _, heq, hnext⟩
            cases heq
            exact hnext
      | error failure =>
          rw [runOn_bind_of_error h]
          simp

/-- Two steps fail if the first does, or the second on the store that the first has left. -/
theorem runOn_bind_eq_error_iff {first : Action (StateM FileStore) α}
    {next : α → Action (StateM FileStore) β} {failure : Failure} :
    runOn (first >>= next) store = (.error failure, last) ↔
      runOn first store = (.error failure, last) ∨
        ∃ a after, runOn first store = (.ok a, after) ∧
          runOn (next a) after = (.error failure, last) := by
  cases h : runOn first store with
  | mk result after =>
      cases result with
      | ok a =>
          rw [runOn_bind_of_ok h]
          constructor
          · exact fun hnext => Or.inr ⟨a, after, rfl, hnext⟩
          · rintro (hfirst | ⟨_, _, hfirst, hnext⟩)
            · cases hfirst
            · cases hfirst
              exact hnext
      | error found =>
          rw [runOn_bind_of_error h]
          simp

theorem runOn_pure_eq_ok_iff {a b : α} :
    runOn (pure a) store = (.ok b, after) ↔ b = a ∧ after = store := by
  change ((Except.ok a : Except Failure α), store) = (.ok b, after) ↔ _
  rw [Prod.mk.injEq, Except.ok.injEq, eq_comm, @eq_comm _ store]

theorem runOn_throw_ne_ok {failure : Failure} {a : α} :
    runOn (throw failure) store ≠ (.ok a, after) := by
  intro h
  cases h

theorem runOn_lift {operation : StateM FileStore α} {a : α}
    (h : operation.run store = (a, after)) :
    runOn (ExceptT.lift operation) store = (.ok a, after) := by
  change StateT.run (Except.ok <$> operation) store = _
  rw [StateT.run_map, h]
  rfl

/-- An operation on files succeeds as a step of an action if it succeeds on the store. -/
theorem runOn_orFail_eq_ok_iff {fail : FileError → Failure}
    {operation : StateM FileStore (Except FileError α)} {a : α} :
    runOn (orFail fail operation) store = (.ok a, after) ↔
      operation.run store = (.ok a, after) := by
  cases hrun : operation.run store with
  | mk result changed =>
      rw [orFail, runOn_bind_of_ok (runOn_lift hrun)]
      cases result with
      | ok found =>
          constructor
          · intro h
            cases h
            rfl
          · intro h
            cases h
            rfl
      | error error =>
          constructor
          · intro h
            cases h
          · intro h
            cases h

/-- It fails as a step if it fails on the store. -/
theorem runOn_orFail_eq_error_iff {fail : FileError → Failure}
    {operation : StateM FileStore (Except FileError α)} {failure : Failure} :
    runOn (orFail fail operation) store = (.error failure, after) ↔
      ∃ error, operation.run store = (.error error, after) ∧ fail error = failure := by
  cases hrun : operation.run store with
  | mk result changed =>
      rw [orFail, runOn_bind_of_ok (runOn_lift hrun)]
      cases result with
      | ok found =>
          constructor
          · intro h
            cases h
          · rintro ⟨error, h, -⟩
            cases h
      | error error =>
          constructor
          · intro h
            cases h
            exact ⟨error, rfl, rfl⟩
          · rintro ⟨_, h, rfl⟩
            cases h
            rfl

theorem runOn_ofExcept_eq_ok_iff {ε : Type} {fail : ε → Failure} {result : Except ε α} {a : α} :
    runOn (ofExcept fail result) store = (.ok a, after) ↔ result = .ok a ∧ after = store := by
  cases result with
  | ok found =>
      rw [ofExcept, runOn_pure_eq_ok_iff, Except.ok.injEq, eq_comm]
  | error error =>
      rw [ofExcept]
      simp [runOn_throw_ne_ok]

theorem exists_error_of_runOn_ofExcept {ε : Type} {fail : ε → Failure} {result : Except ε α}
    {failure : Failure} (h : runOn (ofExcept fail result) store = (.error failure, after)) :
    (∃ error, result = .error error) ∧ after = store := by
  cases result with
  | ok found => cases h
  | error error =>
      cases h
      exact ⟨⟨error, rfl⟩, rfl⟩

theorem fromUTF8?_eq_some_iff {bytes : ByteArray} {text : String} :
    String.fromUTF8? bytes = some text ↔ bytes = text.toUTF8 := by
  unfold String.fromUTF8?
  constructor
  · intro h
    split at h
    · cases h
      rfl
    · cases h
  · rintro rfl
    exact dif_pos text.isValidUTF8

/-- The text of a file is read where its bytes are those of the text. -/
theorem runOn_readText_eq_ok_iff {fail : FileError → Failure} {path text : String} :
    runOn (readText fail path) store = (.ok text, after) ↔
      store.read path = .ok text.toUTF8 ∧ after = store := by
  rw [readText, runOn_bind_eq_ok_iff]
  constructor
  · rintro ⟨content, next, hread, h⟩
    rw [runOn_orFail_eq_ok_iff, run_read] at hread
    obtain ⟨hcontent, rfl⟩ := Prod.mk.inj hread
    split at h
    next found hfound =>
      obtain ⟨rfl, rfl⟩ := runOn_pure_eq_ok_iff.1 h
      rw [fromUTF8?_eq_some_iff.1 hfound] at hcontent
      exact ⟨hcontent, rfl⟩
    next => exact absurd h runOn_throw_ne_ok
  · rintro ⟨hread, rfl⟩
    refine ⟨text.toUTF8, after, ?_, ?_⟩
    · rw [runOn_orFail_eq_ok_iff, run_read, hread]
    · rw [fromUTF8?_eq_some_iff.2 rfl]
      rfl

theorem kind?_eq_file_iff {path : String} :
    (store.entryAt? path).map kindOf = some .file ↔ ∃ content, store.read path = .ok content := by
  simp only [read_eq_ok_iff, entryAt?]
  cases store.locate path with
  | error error => simp
  | ok location =>
      cases hentry : store.tree.get? location with
      | none => simp [hentry]
      | some entry => cases entry <;> simp [hentry, kindOf]

/-- A path is resolved to its path from the root if it leads to a file. -/
theorem runOn_resolve_eq_ok_iff {missing : String → Failure} {given path : String} :
    runOn (resolve missing given) store = (.ok path, after) ↔
      (∃ content, store.read given = .ok content) ∧ store.canonical given = .ok path ∧
        after = store := by
  rw [resolve, runOn_bind_of_ok (runOn_lift (run_kind? given store)), ← kind?_eq_file_iff]
  cases (store.entryAt? given).map kindOf with
  | none => simp [runOn_throw_ne_ok]
  | some kind =>
      cases kind with
      | directory => simp [runOn_throw_ne_ok]
      | file =>
          dsimp only
          rw [runOn_orFail_eq_ok_iff, run_canonical]
          constructor
          · intro h
            obtain ⟨hpath, rfl⟩ := Prod.mk.inj h
            exact ⟨rfl, hpath, rfl⟩
          · rintro ⟨-, hpath, rfl⟩
            rw [hpath]

/-! ## Actions that change nothing -/

/-- An action that leaves every store as it was, whether it succeeds or not. -/
def ReadsOnly (action : Action (StateM FileStore) α) : Prop :=
  ∀ store, (runOn action store).2 = store

theorem readsOnly_pure (a : α) : ReadsOnly (pure a) := fun _ => rfl

theorem readsOnly_throw (failure : Failure) :
    ReadsOnly (throw failure : Action (StateM FileStore) α) := fun _ => rfl

theorem readsOnly_bind {first : Action (StateM FileStore) α}
    {next : α → Action (StateM FileStore) β} (h : ReadsOnly first)
    (h' : ∀ a, ReadsOnly (next a)) : ReadsOnly (first >>= next) := by
  intro store
  have hstore := h store
  cases hfirst : runOn first store with
  | mk result after =>
      rw [hfirst] at hstore
      cases result with
      | ok a =>
          rw [runOn_bind_of_ok hfirst, h' a after]
          exact hstore
      | error failure =>
          rw [runOn_bind_of_error hfirst]
          exact hstore

theorem readsOnly_ofExcept {ε : Type} (fail : ε → Failure) (result : Except ε α) :
    ReadsOnly (ofExcept fail result) := by
  cases result with
  | ok a => exact readsOnly_pure a
  | error error => exact readsOnly_throw (fail error)

theorem readsOnly_lift {operation : StateM FileStore α}
    (h : ∀ store, (operation.run store).2 = store) :
    ReadsOnly (ExceptT.lift operation) := by
  intro store
  have hstore := h store
  cases hrun : operation.run store with
  | mk a after =>
      rw [hrun] at hstore
      rw [runOn_lift hrun]
      exact hstore

theorem runOn_orFail_snd (fail : FileError → Failure)
    (operation : StateM FileStore (Except FileError α)) (store : FileStore) :
    (runOn (orFail fail operation) store).2 = (operation.run store).2 := by
  cases hrun : operation.run store with
  | mk result after =>
      rw [orFail, runOn_bind_of_ok (runOn_lift hrun)]
      cases result <;> rfl

theorem readsOnly_readText (fail : FileError → Failure) (path : String) :
    ReadsOnly (readText fail path) := by
  refine readsOnly_bind (fun store => runOn_orFail_snd _ _ store) fun content => ?_
  split
  · exact readsOnly_pure _
  · exact readsOnly_throw _

theorem readsOnly_resolve (missing : String → Failure) (path : String) :
    ReadsOnly (resolve missing path) := by
  refine readsOnly_bind (readsOnly_lift fun _ => rfl) fun kind => ?_
  split
  · exact readsOnly_throw _
  · exact readsOnly_throw _
  · exact fun store => runOn_orFail_snd _ _ store

end Gamebook.Command
