import Gamebook.Proofs.Command.Actions
import Gamebook.Proofs.Session.Calls

/-! # Quests that stand in a store

A quest that was loaded stands in the store under its paths from the root, and is loaded from there
again as long as nothing is written over its files. `advance` is the part of a command that comes
before saving: it changes no file, and what it answers belongs to a quest that stands in the store
(`stands_of_advance`).
-/

namespace Gamebook

namespace FileStore

/-- A store has a file of the given content under a path that is its own path from the root. -/
structure HasFile (store : FileStore) (path : String) (content : ByteArray) : Prop where
  rooted : store.canonical path = .ok path
  read : store.read path = .ok content

variable {before after : FileStore} {touched : List Location}

theorem HasFile.keeps {path : String} {content : ByteArray} (hfile : before.HasFile path content)
    (h : Keeps touched before after) (hsite : before.siteOf path ∉ touched) :
    after.HasFile path content where
  rooted := (canonical_of_keeps h hfile.read hsite).trans hfile.rooted
  read := read_of_keeps h hfile.read hsite

end FileStore

namespace Command

open FileStore

variable {store after : FileStore} {quest : LoadedQuest}

/-- A store has the quest, and the encounters that it is played with unless they are the ones that
come with the program. -/
structure LoadedQuest.Stands (quest : LoadedQuest) (store : FileStore) : Prop where
  text : store.HasFile quest.path quest.text.toUTF8
  encounters : match quest.encountersPath with
    | none => quest.encounters = .bundled
    | some path => ∃ json : String, store.HasFile path json.toUTF8 ∧
        Encounters.ofText json = .ok quest.encounters

/-- The paths of a quest. -/
def LoadedQuest.paths (quest : LoadedQuest) : List String :=
  quest.path :: quest.encountersPath.toList

/-- A quest still stands when nothing was written at the sites of its paths. -/
theorem LoadedQuest.Stands.keeps {touched : List Location} (hstands : quest.Stands store)
    (h : Keeps touched store after) (hsites : ∀ path ∈ quest.paths, store.siteOf path ∉ touched) :
    quest.Stands after := by
  obtain ⟨path, text, encountersPath, encounters⟩ := quest
  obtain ⟨htext, hencounters⟩ := hstands
  refine ⟨htext.keeps h (hsites path List.mem_cons_self), ?_⟩
  cases encountersPath with
  | none => exact hencounters
  | some given =>
      obtain ⟨json, hjson, hread⟩ := hencounters
      have hsite := hsites given (List.mem_cons_of_mem _ List.mem_cons_self)
      exact ⟨json, hjson.keeps h hsite, hread⟩

/-- A quest stands in the store that it was loaded from, which is left as it was. -/
theorem stands_of_loadQuest (hnamed : store.Named) {given : String} {table : Option String}
    (h : runOn (loadQuest given table) store = (.ok quest, after)) :
    after = store ∧ quest.Stands store := by
  obtain ⟨path, _, hresolve, hload⟩ := runOn_bind_eq_ok_iff.1 h
  obtain ⟨-, hpath, rfl⟩ := runOn_resolve_eq_ok_iff.1 hresolve
  obtain ⟨text, _, htext, htable⟩ := runOn_bind_eq_ok_iff.1 hload
  obtain ⟨hread, rfl⟩ := runOn_readText_eq_ok_iff.1 htext
  -- The path is kept as it was resolved, and resolving it once more gives it again.
  have hfile := HasFile.mk (canonical_of_canonical hnamed hpath hread) hread
  cases table with
  | none =>
      obtain ⟨rfl, rfl⟩ := runOn_pure_eq_ok_iff.1 htable
      exact ⟨rfl, hfile, rfl⟩
  | some given =>
      obtain ⟨resolved, _, hresolve', hjson⟩ := runOn_bind_eq_ok_iff.1 htable
      obtain ⟨-, hresolved, rfl⟩ := runOn_resolve_eq_ok_iff.1 hresolve'
      obtain ⟨json, _, hreadText, hparse⟩ := runOn_bind_eq_ok_iff.1 hjson
      obtain ⟨hread', rfl⟩ := runOn_readText_eq_ok_iff.1 hreadText
      obtain ⟨encounters, _, hofText, hdone⟩ := runOn_bind_eq_ok_iff.1 hparse
      obtain ⟨hencounters, rfl⟩ := runOn_ofExcept_eq_ok_iff.1 hofText
      obtain ⟨rfl, rfl⟩ := runOn_pure_eq_ok_iff.1 hdone
      have hfile' := HasFile.mk (canonical_of_canonical hnamed hresolved hread') hread'
      exact ⟨rfl, hfile, json, hfile', hencounters⟩

/-- A quest that stands in a store is loaded from its paths. -/
theorem loadQuest_of_stands (h : quest.Stands store) :
    runOn (loadQuest quest.path quest.encountersPath) store = (.ok quest, store) := by
  obtain ⟨path, text, encountersPath, encounters⟩ := quest
  obtain ⟨htext, hencounters⟩ := h
  refine runOn_bind_eq_ok_iff.2 ⟨path, store,
    runOn_resolve_eq_ok_iff.2 ⟨⟨_, htext.read⟩, htext.rooted, rfl⟩, ?_⟩
  refine runOn_bind_eq_ok_iff.2 ⟨text, store, runOn_readText_eq_ok_iff.2 ⟨htext.read, rfl⟩, ?_⟩
  cases encountersPath with
  | none =>
      dsimp only at hencounters
      rw [hencounters]
      rfl
  | some given =>
      obtain ⟨json, hjson, hread⟩ := hencounters
      refine runOn_bind_eq_ok_iff.2 ⟨given, store,
        runOn_resolve_eq_ok_iff.2 ⟨⟨_, hjson.read⟩, hjson.rooted, rfl⟩, ?_⟩
      refine runOn_bind_eq_ok_iff.2
        ⟨json, store, runOn_readText_eq_ok_iff.2 ⟨hjson.read, rfl⟩, ?_⟩
      exact runOn_bind_eq_ok_iff.2
        ⟨encounters, store, runOn_ofExcept_eq_ok_iff.2 ⟨hread, rfl⟩, rfl⟩

/-- A saved game is read where its text stands, and its schema is the current one. -/
theorem runOn_loadGame_eq_ok_iff {path : String} {game : SavedGame} :
    runOn (loadGame path) store = (.ok game, after) ↔
      (∃ text : String, store.read path = .ok text.toUTF8 ∧ SavedGame.ofText text = .ok game) ∧
        game.schema = currentSchema ∧ after = store := by
  rw [loadGame, runOn_bind_eq_ok_iff]
  constructor
  · rintro ⟨text, _, hreadText, hparse⟩
    obtain ⟨hread, rfl⟩ := runOn_readText_eq_ok_iff.1 hreadText
    obtain ⟨found, _, hofText, hschema⟩ := runOn_bind_eq_ok_iff.1 hparse
    obtain ⟨hfound, rfl⟩ := runOn_ofExcept_eq_ok_iff.1 hofText
    split at hschema
    next hcurrent =>
      obtain ⟨rfl, rfl⟩ := runOn_pure_eq_ok_iff.1 hschema
      exact ⟨⟨text, hread, hfound⟩, hcurrent, rfl⟩
    next => exact absurd hschema runOn_throw_ne_ok
  · rintro ⟨⟨text, hread, hfound⟩, hcurrent, rfl⟩
    refine ⟨text, after, runOn_readText_eq_ok_iff.2 ⟨hread, rfl⟩, ?_⟩
    refine runOn_bind_eq_ok_iff.2 ⟨game, after, runOn_ofExcept_eq_ok_iff.2 ⟨hfound, rfl⟩, ?_⟩
    rw [if_pos hcurrent]
    rfl

/-- A saved game is taken up where its quest can be loaded and read, and play can go on from its
snapshot. -/
theorem runOn_takeUp_eq_ok_iff {game : SavedGame} {session : Session} :
    runOn (takeUp game) store = (.ok (quest, session), after) ↔
      ∃ d, runOn (loadQuest game.questPath game.encountersPath) store = (.ok quest, after) ∧
        Document.read quest.text = .ok d ∧
        Session.resume d quest.encounters game.snapshot = .ok session := by
  rw [takeUp, runOn_bind_eq_ok_iff]
  constructor
  · rintro ⟨found, _, hload, hrest⟩
    obtain ⟨d, _, hofText, hresume⟩ := runOn_bind_eq_ok_iff.1 hrest
    obtain ⟨hread, rfl⟩ := runOn_ofExcept_eq_ok_iff.1 hofText
    obtain ⟨resumed, _, hofExcept, hdone⟩ := runOn_bind_eq_ok_iff.1 hresume
    obtain ⟨hsession, rfl⟩ := runOn_ofExcept_eq_ok_iff.1 hofExcept
    obtain ⟨heq, rfl⟩ := runOn_pure_eq_ok_iff.1 hdone
    cases heq
    exact ⟨d, hload, hread, hsession⟩
  · rintro ⟨d, hload, hread, hsession⟩
    refine ⟨quest, after, hload, ?_⟩
    refine runOn_bind_eq_ok_iff.2 ⟨d, after, runOn_ofExcept_eq_ok_iff.2 ⟨hread, rfl⟩, ?_⟩
    exact runOn_bind_eq_ok_iff.2
      ⟨session, after, runOn_ofExcept_eq_ok_iff.2 ⟨hsession, rfl⟩, rfl⟩

/-- The path that a command saves under. -/
def Request.stateOut : Request → String
  | .start _ _ stateOut => stateOut
  | .choose _ stateOut _ => stateOut
  | .event _ stateOut _ => stateOut

/-- What a command does before it saves: the quest, the session after the step of play, and what a
combat has given. -/
def advance {m : Type → Type} [Monad m] [FileAccess m] :
    Request → Action m (LoadedQuest × Session × Option EventParameters)
  | .start questPath encountersPath _ => do
    let quest ← loadQuest questPath encountersPath
    let d ← ofExcept .quest (Document.read quest.text)
    let session ← ofExcept .quest (Session.start d quest.encounters NameMap.empty).answer
    return (quest, session, none)
  | .choose stateIn _ choice => do
    let (quest, session) ← takeUp (← loadGame stateIn)
    let next ← ofExcept .quest (session.choose choice).answer
    return (quest, next, none)
  | .event stateIn _ event => do
    let (quest, session) ← takeUp (← loadGame stateIn)
    let (parameters, next) ← ofExcept .quest (session.resolveCombat event).answer
    return (quest, next, some parameters)

/-! ## Steps that change no file -/

theorem readsOnly_loadQuest (questPath : String) (encountersPath : Option String) :
    ReadsOnly (loadQuest questPath encountersPath) := by
  refine readsOnly_bind (readsOnly_resolve _ _) fun path => ?_
  refine readsOnly_bind (readsOnly_readText _ _) fun text => ?_
  cases encountersPath with
  | none => exact readsOnly_pure _
  | some given =>
      refine readsOnly_bind (readsOnly_resolve _ _) fun resolved => ?_
      refine readsOnly_bind (readsOnly_readText _ _) fun json => ?_
      exact readsOnly_bind (readsOnly_ofExcept _ _) fun encounters => readsOnly_pure _

theorem readsOnly_loadGame (path : String) : ReadsOnly (loadGame path) := by
  refine readsOnly_bind (readsOnly_readText _ _) fun text => ?_
  refine readsOnly_bind (readsOnly_ofExcept _ _) fun game => ?_
  split
  · exact readsOnly_pure _
  · exact readsOnly_throw _

theorem readsOnly_takeUp (game : SavedGame) : ReadsOnly (takeUp game) := by
  refine readsOnly_bind (readsOnly_loadQuest _ _) fun quest => ?_
  refine readsOnly_bind (readsOnly_ofExcept _ _) fun d => ?_
  exact readsOnly_bind (readsOnly_ofExcept _ _) fun session => readsOnly_pure _

/-- A step of play changes no file, whether it succeeds or not. -/
theorem readsOnly_advance (request : Request) : ReadsOnly (advance request) := by
  cases request with
  | start questPath encountersPath stateOut =>
      refine readsOnly_bind (readsOnly_loadQuest _ _) fun quest => ?_
      refine readsOnly_bind (readsOnly_ofExcept _ _) fun d => ?_
      exact readsOnly_bind (readsOnly_ofExcept _ _) fun session => readsOnly_pure _
  | choose stateIn stateOut choice =>
      refine readsOnly_bind (readsOnly_loadGame _) fun game => ?_
      refine readsOnly_bind (readsOnly_takeUp _) fun taken => ?_
      exact readsOnly_bind (readsOnly_ofExcept _ _) fun next => readsOnly_pure _
  | event stateIn stateOut event =>
      refine readsOnly_bind (readsOnly_loadGame _) fun game => ?_
      refine readsOnly_bind (readsOnly_takeUp _) fun taken => ?_
      exact readsOnly_bind (readsOnly_ofExcept _ _) fun next => readsOnly_pure _

/-- A command makes its step of play and then saves. -/
theorem perform_eq_bind_finish (request : Request) :
    (perform request : Action (StateM FileStore) _) =
      advance request >>= fun (quest, session, parameters) =>
        finish quest session parameters request.stateOut := by
  cases request with
  | start questPath encountersPath stateOut =>
      simp only [perform, startQuest, advance, bind_assoc, pure_bind, Request.stateOut]
  | choose stateIn stateOut choice =>
      simp only [perform, takeChoice, advance, bind_assoc, pure_bind, Request.stateOut]
  | event stateIn stateOut event =>
      simp only [perform, endCombat, advance, bind_assoc, pure_bind, Request.stateOut]

/-- A session on the document that the text of a quest is, with the encounters of the quest. -/
structure Plays (quest : LoadedQuest) (session : Session) : Prop where
  document : Document.read quest.text = .ok session.document
  encounters : session.encounters = quest.encounters

theorem plays_of_answerTo {before next : Session} (hplays : Plays quest before) {call : Call}
    (h : before.answerTo call = .ok next) : Plays quest next := by
  obtain ⟨d, table, node, context⟩ := before
  obtain ⟨r, context', onward, last, -, -, -, -, rfl⟩ := Session.leads_of_answerTo h
  exact ⟨hplays.document, hplays.encounters⟩

/-- The quest of a game that is taken up stands in the store, which is left as it was. -/
theorem stands_of_takeUp (hnamed : store.Named) {game : SavedGame} {session : Session}
    (h : runOn (takeUp game) store = (.ok (quest, session), after)) :
    after = store ∧ quest.Stands store ∧ Plays quest session := by
  obtain ⟨d, hload, hread, hresume⟩ := runOn_takeUp_eq_ok_iff.1 h
  obtain ⟨hafter, hstands⟩ := stands_of_loadQuest hnamed hload
  obtain ⟨node, rfl, -⟩ := Session.isScene_of_resume hresume
  exact ⟨hafter, hstands, hread, rfl⟩

/-- What follows on taking up a saved game is done with a session on a quest that stands in the
store, before anything has changed there. -/
theorem exists_of_bind_takeUp (hnamed : store.Named) {α : Type} {stateIn : String}
    {next : LoadedQuest × Session → Action (StateM FileStore) α} {a : α}
    (h : runOn (loadGame stateIn >>= fun game => takeUp game >>= next) store = (.ok a, after)) :
    ∃ quest before, quest.Stands store ∧ Plays quest before ∧
      runOn (next (quest, before)) store = (.ok a, after) := by
  obtain ⟨game, _, hgame, hrest⟩ := runOn_bind_eq_ok_iff.1 h
  obtain ⟨-, -, rfl⟩ := runOn_loadGame_eq_ok_iff.1 hgame
  obtain ⟨⟨quest, before⟩, _, htakeUp, hnext⟩ := runOn_bind_eq_ok_iff.1 hrest
  obtain ⟨rfl, hstands, hplays⟩ := stands_of_takeUp hnamed htakeUp
  exact ⟨quest, before, hstands, hplays, hnext⟩

/-- A step of play changes no file, and its quest stands in the store. -/
theorem stands_of_advance (hnamed : store.Named) {request : Request} {session : Session}
    {parameters : Option EventParameters}
    (h : runOn (advance request) store = (.ok (quest, session, parameters), after)) :
    after = store ∧ quest.Stands store ∧ Plays quest session := by
  cases request with
  | start questPath encountersPath stateOut =>
      obtain ⟨found, _, hload, hrest⟩ := runOn_bind_eq_ok_iff.1 h
      obtain ⟨rfl, hstands⟩ := stands_of_loadQuest hnamed hload
      obtain ⟨d, _, hofText, hstart⟩ := runOn_bind_eq_ok_iff.1 hrest
      obtain ⟨hread, rfl⟩ := runOn_ofExcept_eq_ok_iff.1 hofText
      obtain ⟨started, _, hofExcept, hdone⟩ := runOn_bind_eq_ok_iff.1 hstart
      obtain ⟨hstarted, rfl⟩ := runOn_ofExcept_eq_ok_iff.1 hofExcept
      obtain ⟨heq, rfl⟩ := runOn_pure_eq_ok_iff.1 hdone
      cases heq
      obtain ⟨card, node, -, -, rfl⟩ := Session.start_eq_ok_iff.1 hstarted
      exact ⟨rfl, hstands, hread, rfl⟩
  | choose stateIn stateOut choice =>
      obtain ⟨found, before, hstands, hplays, hcall⟩ := exists_of_bind_takeUp hnamed h
      obtain ⟨next, _, hofExcept, hdone⟩ := runOn_bind_eq_ok_iff.1 hcall
      obtain ⟨hnext, rfl⟩ := runOn_ofExcept_eq_ok_iff.1 hofExcept
      obtain ⟨heq, rfl⟩ := runOn_pure_eq_ok_iff.1 hdone
      cases heq
      have hanswer : before.answerTo (.choose choice) = .ok session := hnext
      exact ⟨rfl, hstands, plays_of_answerTo hplays hanswer⟩
  | event stateIn stateOut event =>
      obtain ⟨found, before, hstands, hplays, hcall⟩ := exists_of_bind_takeUp hnamed h
      obtain ⟨⟨given, next⟩, _, hofExcept, hdone⟩ := runOn_bind_eq_ok_iff.1 hcall
      obtain ⟨hnext, rfl⟩ := runOn_ofExcept_eq_ok_iff.1 hofExcept
      obtain ⟨heq, rfl⟩ := runOn_pure_eq_ok_iff.1 hdone
      cases heq
      have hanswer : before.answerTo (.resolve event) = .ok session := by
        rw [Session.answerTo, hnext]
        rfl
      exact ⟨rfl, hstands, plays_of_answerTo hplays hanswer⟩

end Command

end Gamebook
