import Gamebook.Proofs.Command.Saving

/-! # Playing through commands

Between two commands a game is only in a file. Still a chain of commands tells what one session in
memory would tell, on which the same calls are made (`narrate_of_follows`). The session that a
command has left is the one that the next command takes up (`Left`), so that each command is one
step of that session.
-/

namespace Gamebook

namespace Session

open Command

/-- What a call gives to the player, with the session that it leads to. -/
def respond (session : Session) : Call → Except Fault (Option EventParameters × Session)
  | .choose index => (session.choose index).answer.map fun next => (none, next)
  | .resolve name =>
    (session.resolveCombat name).answer.map fun (parameters, next) => (some parameters, next)

/-- What is printed of a session after a call that gave something to the player. -/
def report (session : Session) (parameters : Option EventParameters) (stateOut : String) :
    Except Fault (List String) := do
  return successLines (← session.scene.answer) parameters stateOut

/-- What is printed of a session first, and then after each of some calls. -/
def narrate (session : Session) (parameters : Option EventParameters) (stateOut : String) :
    List (Call × String) → Except Fault (List (List String))
  | [] => do return [← session.report parameters stateOut]
  | (call, path) :: rest => do
    let lines ← session.report parameters stateOut
    let (given, next) ← session.respond call
    return lines :: (← next.narrate given path rest)

theorem answerTo_eq_map_respond (session : Session) (call : Call) :
    session.answerTo call = (session.respond call).map Prod.snd := by
  cases call with
  | choose index =>
      rw [answerTo, respond]
      cases (session.choose index).answer <;> rfl
  | resolve name =>
      rw [answerTo, respond]
      cases (session.resolveCombat name).answer <;> rfl

end Session

namespace Command

open FileStore

/-- The request to make a call in a saved game. -/
def Request.ofCall (stateIn stateOut : String) : Call → Request
  | .choose index => .choose stateIn stateOut index
  | .resolve name => .event stateIn stateOut name

/-- The session in memory with which a quest begins. -/
def LoadedQuest.session (quest : LoadedQuest) : Except Fault Session := do
  let d ← Document.read quest.text
  (Session.start d quest.encounters .empty).answer

/-- What comes of the words on a command line, and the store that the command leaves. -/
def runWords (words : List String) (store : FileStore) : Outcome × FileStore :=
  (run words : StateM FileStore Outcome).run store

/-- The words on a command line make a request that is carried out, and the command ends with 0. -/
def Prints (words : List String) (request : Request) (before : FileStore) (lines : List String)
    (after : FileStore) : Prop :=
  read? words = some (.play request) ∧ runWords words before = (⟨0, lines⟩, after)

/-- A call that a command has made, where it has saved the game, and what it has printed. -/
structure Turn where
  call : Call
  stateOut : String
  lines : List String

/-- Commands that succeed one after the other, where each reads the game that the one before has
left. The files may change in between, but for those of the quest and the saved game. -/
inductive Follows (quest : LoadedQuest) : Except FileError ByteArray → List Turn → Prop where
  | nil {left : Except FileError ByteArray} : Follows quest left []
  | cons {turn : Turn} {rest : List Turn} {words : List String} {stateIn : String}
      {before after : FileStore} (hstands : quest.Stands before)
      (hprints : Prints words (.ofCall stateIn turn.stateOut turn.call) before turn.lines after)
      (hrest : Follows quest (after.read turn.stateOut) rest) :
      Follows quest (before.read stateIn) (turn :: rest)

/-- What a command has left of a session: the game that is saved of it. -/
structure Left (quest : LoadedQuest) (session : Session) (left : Except FileError ByteArray) :
    Prop where
  plays : Plays quest session
  shown : ∃ scene, session.scene.answer = .ok scene
  saved : left = .ok (savedGame quest session).text.toUTF8

variable {store before after : FileStore} {quest : LoadedQuest} {session : Session}

theorem runOn_perform_of_prints {words : List String} {request : Request} {lines : List String}
    (h : Prints words request before lines after) :
    runOn (perform request) before = (.ok lines, after) := by
  obtain ⟨hread, hrun⟩ := h
  rw [runWords, run, hread] at hrun
  dsimp only at hrun
  cases hperform : runOn (perform request) before with
  | mk result last =>
      rw [run_bind_of_eq hperform] at hrun
      cases result with
      | ok printed =>
          cases hrun
          rfl
      | error failure => cases hrun

theorem ofExcept_map {ε α β : Type} (fail : ε → Failure) (result : Except ε α) (f : α → β) :
    (ofExcept fail (result.map f) : Action (StateM FileStore) β) = f <$> ofExcept fail result := by
  cases result <;> rfl

theorem advance_ofCall (stateIn stateOut : String) (call : Call) :
    (advance (.ofCall stateIn stateOut call) : Action (StateM FileStore) _) = do
      let (quest, session) ← takeUp (← loadGame stateIn)
      let (parameters, next) ← ofExcept .quest (session.respond call)
      return (quest, next, parameters) := by
  cases call <;>
    simp only [Request.ofCall, advance, Session.respond, ofExcept_map, bind_map_left]

theorem left_of_finish {parameters : Option EventParameters} {stateOut : String}
    {lines : List String} (hplays : Plays quest session)
    (h : runOn (finish quest session parameters stateOut) store = (.ok lines, after)) :
    session.report parameters stateOut = .ok lines ∧ Left quest session (after.read stateOut) := by
  obtain ⟨⟨scene, hscene, rfl⟩, hread⟩ := read_of_finish h
  refine ⟨?_, hplays, ⟨scene, hscene⟩, hread⟩
  rw [Session.report, hscene]
  rfl

/-- The first command loads a quest, and prints and leaves what belongs to the session with which
the quest begins. -/
theorem left_of_start {questPath stateOut : String} {table : Option String} {lines : List String}
    (h : runOn (perform (.start questPath table stateOut)) store = (.ok lines, after)) :
    ∃ quest session, runOn (loadQuest questPath table) store = (.ok quest, store) ∧
      quest.session = .ok session ∧ session.report none stateOut = .ok lines ∧
      Left quest session (after.read stateOut) := by
  obtain ⟨quest, current, hload, hrest⟩ := runOn_bind_eq_ok_iff.1 h
  have hcurrent := readsOnly_loadQuest questPath table store
  rw [hload] at hcurrent
  subst hcurrent
  obtain ⟨d, _, hofText, hrest'⟩ := runOn_bind_eq_ok_iff.1 hrest
  obtain ⟨hread, rfl⟩ := runOn_ofExcept_eq_ok_iff.1 hofText
  obtain ⟨session, _, hofExcept, hfinish⟩ := runOn_bind_eq_ok_iff.1 hrest'
  obtain ⟨hstart, rfl⟩ := runOn_ofExcept_eq_ok_iff.1 hofExcept
  have hplays : Plays quest session := by
    obtain ⟨_, _, -, -, rfl⟩ := Session.start_eq_ok_iff.1 hstart
    exact ⟨hread, rfl⟩
  obtain ⟨hreport, hleft⟩ := left_of_finish hplays hfinish
  refine ⟨quest, session, hload, ?_, hreport, hleft⟩
  rw [LoadedQuest.session, hread]
  exact hstart

/-- A further command makes its call on the session that was left, and leaves the one that the call
leads to. -/
theorem left_of_call {stateIn stateOut : String} {call : Call} {lines : List String}
    (hleft : Left quest session (before.read stateIn)) (hstands : quest.Stands before)
    (hdigits : session.context.DigitsSuffice)
    (h : runOn (perform (.ofCall stateIn stateOut call)) before = (.ok lines, after)) :
    ∃ parameters next, session.respond call = .ok (parameters, next) ∧
      next.report parameters stateOut = .ok lines ∧ Left quest next (after.read stateOut) := by
  obtain ⟨hplays, ⟨scene, hscene⟩, hsaved⟩ := hleft
  have hrequest : (Request.ofCall stateIn stateOut call).stateOut = stateOut := by
    cases call <;> rfl
  rw [perform_eq_bind_finish, advance_ofCall, hrequest] at h
  obtain ⟨⟨quest', next, parameters⟩, advanced, hadvance, hfinish⟩ := runOn_bind_eq_ok_iff.1 h
  obtain ⟨game, current, hload, hrest⟩ := runOn_bind_eq_ok_iff.1 hadvance
  -- That the game was read at all means that its numbers are finite, so that it is read as it was.
  obtain ⟨⟨text, htext, hgame⟩, -, rfl⟩ := runOn_loadGame_eq_ok_iff.1 hload
  rw [hsaved, Except.ok.injEq] at htext
  rw [← String.toByteArray_inj.1 htext] at hgame
  have hreads : session.snapshot.ReadsBack := SavedGame.readsBack_of_ofText hdigits hgame
  obtain ⟨hload', htakeUp⟩ := takeUp_of_stands hsaved hstands hplays hscene hreads
  rw [hload] at hload'
  cases hload'
  obtain ⟨taken, last, htaken, hrest⟩ := runOn_bind_eq_ok_iff.1 hrest
  rw [htakeUp] at htaken
  cases htaken
  obtain ⟨⟨given, found⟩, _, hofExcept, hdone⟩ := runOn_bind_eq_ok_iff.1 hrest
  obtain ⟨hrespond, rfl⟩ := runOn_ofExcept_eq_ok_iff.1 hofExcept
  obtain ⟨heq, rfl⟩ := runOn_pure_eq_ok_iff.1 hdone
  cases heq
  have hanswer : session.answerTo call = .ok next := by
    rw [Session.answerTo_eq_map_respond, hrespond]
    rfl
  exact ⟨parameters, next, hrespond, left_of_finish (plays_of_answerTo hplays hanswer) hfinish⟩

/-- Commands that follow on what was left of a session tell what the session would tell. -/
theorem narrate_of_left {left : Except FileError ByteArray} {turns : List Turn}
    (hfollows : Follows quest left turns) {session : Session}
    {parameters : Option EventParameters} {stateOut : String} {lines : List String}
    (hleft : Left quest session left) (hreport : session.report parameters stateOut = .ok lines)
    (hdigits : ∀ count < turns.length,
      (session.play ((turns.map Turn.call).take count)).context.DigitsSuffice) :
    session.narrate parameters stateOut (turns.map fun turn => (turn.call, turn.stateOut)) =
      .ok (lines :: turns.map Turn.lines) := by
  induction hfollows generalizing session parameters stateOut lines with
  | nil =>
      rw [List.map_nil, Session.narrate, hreport]
      rfl
  | @cons turn rest words stateIn before after hstands hprints hrest ih =>
      have hperform := runOn_perform_of_prints hprints
      have hfirst : session.context.DigitsSuffice := hdigits 0 (Nat.succ_pos _)
      obtain ⟨given, next, hrespond, hnext, hleft'⟩ := left_of_call hleft hstands hfirst hperform
      have hafter : session.after turn.call = next := by
        rw [Session.after, Session.answerTo_eq_map_respond, hrespond]
        rfl
      have hnarrate := ih hleft' hnext fun count hlt => by
        have hcount := hdigits (count + 1) (Nat.succ_lt_succ hlt)
        rw [List.map_cons, List.take_succ_cons, Session.play, List.foldl_cons, hafter] at hcount
        exact hcount
      rw [List.map_cons, Session.narrate, hreport, hrespond]
      change Except.map _ (next.narrate _ _ _) = _
      rw [hnarrate]
      rfl

/-- A quest that a command has opened has one session in memory such that every chain of further
commands which all succeed, and which find the files of the quest and of the saved game as they were
left, prints what this session shows and gives when the same calls are made on it. That supposes of
every finite number among the variables of the session that it is read back from its digits. -/
theorem narrate_of_follows (store after : FileStore) (questPath : String) (table : Option String)
    (words : List String) (stateOut : String) (lines : List String)
    (hstart : Prints words (.start questPath table stateOut) store lines after) :
    ∃ quest session, runOn (loadQuest questPath table) store = (.ok quest, store) ∧
      quest.session = .ok session ∧
      ∀ turns, Follows quest (after.read stateOut) turns →
        (∀ count < turns.length,
          (session.play ((turns.map Turn.call).take count)).context.DigitsSuffice) →
        session.narrate none stateOut (turns.map fun turn => (turn.call, turn.stateOut)) =
          .ok (lines :: turns.map Turn.lines) := by
  have hperform := runOn_perform_of_prints hstart
  obtain ⟨quest, session, hload, hsession, hreport, hleft⟩ := left_of_start hperform
  refine ⟨quest, session, hload, hsession, ?_⟩
  intro turns hfollows hdigits
  exact narrate_of_left hfollows hleft hreport hdigits

/-- A quest that counts in one piece of story and tells the number in the next. -/
def tally : LoadedQuest where
  path := "/q"
  text := "<quest><roleplay>{{x=2}}</roleplay><roleplay>{{x}}</roleplay></quest>"
  encountersPath := none
  encounters := .bundled

/-- A store with nothing but that quest. -/
def desk : FileStore :=
  ⟨⟨[(["q"], .file tally.text.toUTF8)]⟩, []⟩

/-- The words that ask for that quest to be opened. -/
def openTally : List String :=
  ["agent", "start", "--quest", "/q", "--state-out", "s"]

/-- The words that ask for the first choice in a saved game. -/
def goOn (stateIn stateOut : String) : List String :=
  ["agent", "choose", "--state-in", stateIn, "--choice", "0", "--state-out", stateOut]

/-- Going on twice, to the number and to the end. -/
def goingOn : List Turn :=
  [⟨.choose 0, "t", ["RESULT:OK", "STEP:ROLEPLAY", "CONTENT:text|\"2\"", "CHOICE:0|\"Next\"",
      "STATE_OUT:t"]⟩,
    ⟨.choose 0, "s", ["RESULT:OK", "STEP:END", "STATE_OUT:s"]⟩]

theorem stands_tally {store : FileStore} (h : (store.canonical "/q").toOption = some "/q" ∧
    (store.read "/q").toOption = some tally.text.toUTF8) : tally.Stands store :=
  ⟨⟨Except.toOption_eq_some_iff.1 h.1, Except.toOption_eq_some_iff.1 h.2⟩, rfl⟩

/-- Opening the quest and going on twice tells of one session in memory, although the number is only
in a file in between. -/
theorem narrate_of_follows_tally :
    ∃ opened session,
      Prints openTally (.start "/q" none "s") desk
        ["RESULT:OK", "STEP:ROLEPLAY", "CHOICE:0|\"Next\"", "STATE_OUT:s"] opened ∧
      Follows tally (opened.read "s") goingOn ∧ tally.session = .ok session ∧
      session.narrate none "s" [(.choose 0, "t"), (.choose 0, "s")] =
        .ok (["RESULT:OK", "STEP:ROLEPLAY", "CHOICE:0|\"Next\"", "STATE_OUT:s"] ::
          goingOn.map Turn.lines) := by
  -- All that has to be run of the commands is run at once, before their stores get names.
  have hrun : (∀ store ∈ [desk, (runWords openTally desk).2,
          (runWords (goOn "s" "t") (runWords openTally desk).2).2],
        (store.canonical "/q").toOption = some "/q" ∧
        (store.read "/q").toOption = some tally.text.toUTF8) ∧
      (runWords openTally desk).1 =
        ⟨0, ["RESULT:OK", "STEP:ROLEPLAY", "CHOICE:0|\"Next\"", "STATE_OUT:s"]⟩ ∧
      (runWords (goOn "s" "t") (runWords openTally desk).2).1 =
        ⟨0, ["RESULT:OK", "STEP:ROLEPLAY", "CONTENT:text|\"2\"", "CHOICE:0|\"Next\"",
          "STATE_OUT:t"]⟩ ∧
      (runWords (goOn "t" "s") (runWords (goOn "s" "t") (runWords openTally desk).2).2).1 =
        ⟨0, ["RESULT:OK", "STEP:END", "STATE_OUT:s"]⟩ := by
    decide +kernel
  have hwords : read? openTally = some (.play (.start tally.path tally.encountersPath "s")) ∧
      read? (goOn "s" "t") = some (.play (.ofCall "s" "t" (.choose 0))) ∧
      read? (goOn "t" "s") = some (.play (.ofCall "t" "s" (.choose 0))) := by
    decide +kernel
  have hdigits : ∀ session, tally.session = .ok session → ∀ count < 2,
      (session.play ([.choose 0, .choose 0].take count)).context.DigitsSuffice := by
    have hcontexts : tally.session.toOption.map (fun session =>
        ((session.play []).context.entries, (session.play [.choose 0]).context.entries)) =
        some ([], [("x", .number 2)]) := by
      decide +kernel
    have htwo : Number.ReadsBack 2 := by
      unfold Number.ReadsBack
      decide +kernel
    intro session hsession count hcount name x hget _
    rw [hsession] at hcontexts
    obtain ⟨hfirst, hsecond⟩ := Prod.mk.inj (Option.some.inj hcontexts)
    have hmem := NameMap.get?_eq_some_iff.1 hget
    match count, hcount with
    | 0, _ =>
        rw [List.take_zero, hfirst] at hmem
        cases hmem
    | 1, _ =>
        rw [List.take_succ_cons, List.take_zero, hsecond, List.mem_singleton] at hmem
        cases hmem
        exact htwo
  obtain ⟨⟨opening, opened⟩, hopen⟩ : ∃ result, runWords openTally desk = result := ⟨_, rfl⟩
  rw [hopen] at hrun
  obtain ⟨⟨moving, moved⟩, hmove⟩ : ∃ result, runWords (goOn "s" "t") opened = result := ⟨_, rfl⟩
  rw [hmove] at hrun
  obtain ⟨⟨ending, ended⟩, hend⟩ : ∃ result, runWords (goOn "t" "s") moved = result := ⟨_, rfl⟩
  rw [hend] at hrun
  obtain ⟨hfiles, rfl, rfl, rfl⟩ := hrun
  have hstart : Prints openTally (.start tally.path tally.encountersPath "s") desk
      ["RESULT:OK", "STEP:ROLEPLAY", "CHOICE:0|\"Next\"", "STATE_OUT:s"] opened :=
    ⟨hwords.1, hopen⟩
  have hfollows : Follows tally (opened.read "s") goingOn := by
    refine .cons (stands_tally (hfiles opened (by simp))) ⟨hwords.2.1, hmove⟩ ?_
    exact .cons (stands_tally (hfiles moved (by simp))) ⟨hwords.2.2, hend⟩ .nil
  have hload := loadQuest_of_stands (stands_tally (hfiles desk (by simp)))
  obtain ⟨quest, session, hload', hsession, hnarrate⟩ :=
    narrate_of_follows desk opened _ _ openTally "s" _ hstart
  rw [hload] at hload'
  cases hload'
  exact ⟨opened, session, hstart, hfollows, hsession,
    hnarrate goingOn hfollows (hdigits session hsession)⟩

end Command

end Gamebook
