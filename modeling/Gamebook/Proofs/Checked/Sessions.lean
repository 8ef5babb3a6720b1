import Gamebook.Proofs.Checked.Cards
import Gamebook.Proofs.Session.Settled

/-! # Sessions by number

A session is opened on a text, at the beginning or from any snapshot, and then anything is asked of
it, in any order. Played by number, with every look-up and every loop checked, it replies exactly as
it does in the document: nothing is ever missed, and no session is parked on a trigger
(`told_eq_found`).
-/

namespace Gamebook

/-- How a session is opened. -/
inductive Opening where
  | start (context : Context)
  | resume (snapshot : Snapshot)
deriving DecidableEq

namespace Session

/-- The session that an opening leads to. -/
def opened (d : Document) (table : Encounters) : Opening → Except Fault Session
  | .start context => (start d table context).answer
  | .resume snapshot => resume d table snapshot

/-- The replies of a session to one thing after the other that is asked of it. -/
def replies (session : Session) : List Use → List (Except Fault Reply)
  | [] => []
  | use :: rest => (session.reply use).1 :: replies (session.reply use).2 rest

/-- What a session on a text replies. -/
def told (text : String) (table : Encounters) (opening : Opening) (uses : List Use) :
    Except Fault (List (Except Fault Reply)) := do
  let d ← Document.read text
  let session ← opened d table opening
  return session.replies uses

end Session

namespace Checked

/-- Where a session is, by number. -/
structure Standing where
  node : Option Nat
  context : Context
deriving DecidableEq

section

variable (entries : Array Entry) (table : Encounters)

/-- Follows triggers until play arrives at another card or the quest ends. -/
def followTriggers : Nat → Option Nat → Checked (Option Nat)
  | 0, _ => throw (.ofCause (.endlessTriggers maxTriggers))
  | _ + 1, none => return none
  | hops + 1, some i => do
    if (← node entries i).tag = .trigger then
      let (target, kind) ← loadTrigger entries i
      match kind with
      | .finish => followTriggers hops none
      | .goto => followTriggers hops (some target)
    else return some i

/-- The beginning of the quest. -/
def start (context : Context) : Checked Standing := do
  let first ← (← children entries 0).findM?
    (ask entries fun node => node.tag.isCard && (node.isEnabled context).value)
  match first with
  | none => throw (.ofCause .questWithoutCard)
  | some card => return ⟨← followTriggers entries maxTriggers (some card), context⟩

/-- The place that a snapshot gives. Its number alone may be that of no entry. -/
def resume (snapshot : Snapshot) : Checked Standing := do
  if snapshot.ended then return ⟨none, snapshot.context⟩
  else
    match snapshot.node with
    | none => throw (.ofCause .snapshotWithoutNode)
    | some number =>
      match entries[number]? with
      | some entry =>
        if entry.node.tag = .roleplay ∨ entry.node.tag = .combat then
          return ⟨some number, snapshot.context⟩
        else throw (.ofCause (.snapshotNode number))
      | none => throw (.ofCause (.snapshotNode number))

/-- Where an opening leads. -/
def opened : Opening → Checked Standing
  | .start context => start entries context
  | .resume snapshot => resume entries snapshot

/-- What the player is shown. -/
def scene (s : Standing) : Checked Scene := do
  match s.node with
  | none => return .finish
  | some i =>
    match ← loadStep entries table s.context i with
    | .roleplay step => return .roleplay step
    | .combat step => return .combat step
    | .trigger .. => throw (.ofCause .parkedOnTrigger)

/-- The number of the node that the session is at, which must be of a kind. -/
def expect (tag : Tag) (cause : Tag → Cause) (s : Standing) : Checked Nat := do
  match s.node with
  | none => throw (.ofCause .sessionEnded)
  | some i =>
    let found := (← node entries i).tag
    if found = tag then return i else throw (.ofCause (cause found))

/-- Where taking a choice leads before triggers are followed. -/
def afterChoice (index : Nat) (context : Context) (i : Nat) : Checked (Option Nat) := do
  match ← takeChoice entries index context i with
  | some next => return some next
  | none =>
    if ← hasEndTrigger entries context i then return none
    else fallThrough entries context entries.size i

/-- Where the choice with a number leads. -/
def choose (index : Nat) (s : Standing) : Checked Standing := do
  let i ← expect entries .roleplay .noChoiceHere s
  let step ← loadRoleplay entries s.context i
  if step.choices.length ≤ index then
    throw (.ofCause (.choiceOutOfRange index step.choices.length))
  let next ← afterChoice entries index step.context i
  return ⟨← followTriggers entries maxTriggers next, step.context⟩

/-- Where the named outcome of a combat leads, with what it gives to the player. -/
def resolveCombat (name : String) (s : Standing) : Checked (EventParameters × Standing) := do
  let i ← expect entries .combat .noCombatHere s
  let _ ← loadCombat entries table s.context i
  let parameters ← eventParameters entries name s.context i
  let next ← takeEvent entries name s.context i
  return (parameters, ⟨← followTriggers entries maxTriggers (some next), s.context⟩)

/-- What a session replies, and where it is then. What fails leaves it where it was. -/
def reply (s : Standing) : Use → Option (Except Fault Reply × Standing)
  | .choose index => (choose entries index s).run.map fun
    | .ok next => (.ok .moved, next)
    | .error fault => (.error fault, s)
  | .resolve name => (resolveCombat entries table name s).run.map fun
    | .ok (parameters, next) => (.ok (.given parameters), next)
    | .error fault => (.error fault, s)
  | .scene => (scene entries table s).run.map fun answer => (answer.map .shown, s)
  | .snapshot => some (.ok (.kept ⟨s.node, s.context, s.node.isNone⟩), s)

/-- The replies to one thing after the other that is asked. -/
def replies (s : Standing) : List Use → Option (List (Except Fault Reply))
  | [] => some []
  | use :: rest => do
    let (answer, next) ← reply entries table s use
    return answer :: (← replies next rest)

end

/-- What a session on a text replies. -/
def told (text : String) (table : Encounters) (opening : Opening) (uses : List Use) :
    Checked (List (Except Fault Reply)) := do
  let d ← found (Document.read text)
  let s ← opened d.entries opening
  ExceptT.lift (replies d.entries table s uses)

/-! ## Nothing is missed -/

variable {d : Document} {table : Encounters}

/-- Where a session is. -/
def standing (session : Session) : Standing :=
  ⟨session.node.map Fin.val, session.context⟩

theorem followTriggers_eq (hops : Nat) (node : Option d.Ref) :
    followTriggers d.entries hops (node.map Fin.val) =
      found ((d.followTriggers hops node).map (Option.map Fin.val)) := by
  induction hops generalizing node with
  | zero => rfl
  | succ hops ih =>
      cases node with
      | none => rfl
      | some r =>
          rw [Option.map_some, followTriggers, node_eq, pure_bind, loadTrigger_eq,
            Document.followTriggers]
          change (if d.tag r = .trigger then _ else _) = _
          split
          · cases d.loadTrigger r with
            | error fault => rfl
            | ok trigger =>
                obtain ⟨target, kind⟩ := trigger
                cases kind with
                | finish => exact ih none
                | goto => exact ih (some target)
          · rfl

theorem start_eq (context : Context) :
    start d.entries context = found ((Session.start d table context).answer.map standing) := by
  have hroot : children d.entries 0 = pure ((d.children d.root).map Fin.val) :=
    children_eq d.root
  have hfirst : (d.firstEnabledCard context).value = (d.children d.root).find? fun child =>
      (d.node child).tag.isCard && ((d.node child).isEnabled context).value :=
    Document.value_firstEnabledCard context
  rw [start, hroot, pure_bind, findM?_map (ask_eq _), pure_bind, ← hfirst, Session.start,
    Play.answer_bind, Play.answer_liftM]
  cases (d.firstEnabledCard context).value with
  | none => rfl
  | some card =>
      dsimp only [Option.map_some, Except.bind]
      rw [← Option.map_some, followTriggers_eq, Play.answer_bind, Play.answer_ofExcept,
        Except.map_bind]
      exact found_map_bind fun node => rfl

theorem resume_eq (snapshot : Snapshot) :
    resume d.entries snapshot = found ((Session.resume d table snapshot).map standing) := by
  unfold resume Session.resume Session.placeOf
  split
  · rfl
  · cases snapshot.node with
    | none => rfl
    | some number =>
        dsimp only
        unfold Document.ref?
        by_cases hlt : number < d.entries.size
        · rw [Array.getElem?_eq_getElem hlt, dif_pos hlt]
          dsimp only
          change (if d.tag ⟨number, hlt⟩ = .roleplay ∨ d.tag ⟨number, hlt⟩ = .combat then _
            else _) = _
          split <;> rfl
        · rw [Array.getElem?_eq_none (Nat.le_of_not_lt hlt), dif_neg hlt]
          rfl

theorem scene_eq (session : Session) :
    scene session.document.entries session.encounters (standing session) =
      found session.scene.answer := by
  obtain ⟨d, table, node, context⟩ := session
  cases node with
  | none => rfl
  | some r =>
      change (loadStep d.entries table context r >>= _) = found (Play.answer (_ >>= _))
      rw [loadStep_eq, Play.answer_bind]
      refine found_bind ?_
      intro step
      cases step <;> rfl

theorem expect_eq (session : Session) (tag : Tag) (cause : Tag → Cause) :
    expect session.document.entries tag cause (standing session) =
      found ((session.expect tag cause).map Fin.val) := by
  obtain ⟨d, table, node, context⟩ := session
  cases node with
  | none => rfl
  | some r =>
      change (node d.entries r >>= _) = _
      rw [node_eq, pure_bind, Session.expect]
      change (if d.tag r = tag then _ else _) = _
      dsimp only
      split <;> rfl

theorem afterChoice_eq (session : Session) (index : Nat) (context : Context)
    (r : session.document.Ref) :
    afterChoice session.document.entries index context r =
      found ((session.afterChoice r index context).answer.map (Option.map Fin.val)) := by
  rw [afterChoice, takeChoice_eq, Session.afterChoice, Play.answer_bind, Except.map_bind]
  refine found_map_bind ?_
  intro next
  cases next with
  | some next => rfl
  | none =>
      dsimp only [Option.map_none]
      rw [hasEndTrigger_eq, pure_bind, fallThrough_eq r.isLt, Play.answer_bind, Play.answer_liftM,
        Document.value_hasEndTrigger]
      cases session.document.endsWithin r context <;> rfl

theorem choose_eq (session : Session) (index : Nat) :
    choose session.document.entries index (standing session) =
      found ((session.choose index).answer.map standing) := by
  rw [choose, expect_eq, Session.choose, Play.answer_bind, Play.answer_ofExcept, Except.map_bind]
  refine found_map_bind ?_
  intro r
  rw [loadRoleplay_eq, Play.answer_bind, Except.map_bind]
  refine found_bind ?_
  intro step
  rw [Play.answer_ite]
  split
  · rfl
  · rw [afterChoice_eq, Play.answer_bind, Except.map_bind]
    refine found_map_bind ?_
    intro next
    rw [followTriggers_eq, Play.answer_bind, Play.answer_ofExcept, Except.map_bind]
    exact found_map_bind fun node => rfl

theorem resolveCombat_eq (session : Session) (name : String) :
    resolveCombat session.document.entries session.encounters name (standing session) =
      found ((session.resolveCombat name).answer.map fun given => (given.1, standing given.2)) := by
  rw [resolveCombat, expect_eq, Session.resolveCombat, Play.answer_bind, Play.answer_ofExcept,
    Except.map_bind]
  refine found_map_bind ?_
  intro r
  rw [loadCombat_eq, Play.answer_bind, Except.map_bind]
  refine found_bind ?_
  intro step
  rw [eventParameters_eq, Play.answer_bind, Except.map_bind]
  refine found_bind ?_
  intro parameters
  rw [takeEvent_eq, Play.answer_bind, Except.map_bind]
  refine found_map_bind ?_
  intro next
  rw [← Option.map_some, followTriggers_eq, Play.answer_bind, Play.answer_ofExcept,
    Except.map_bind]
  exact found_map_bind fun node => rfl

theorem reply_eq (session : Session) (use : Use) :
    reply session.document.entries session.encounters (standing session) use =
      some ((session.reply use).1, standing (session.reply use).2) := by
  cases use with
  | choose index =>
      rw [reply, choose_eq, Session.reply_choose]
      cases (session.choose index).answer <;> rfl
  | resolve name =>
      rw [reply, resolveCombat_eq, Session.reply_resolve]
      cases (session.resolveCombat name).answer <;> rfl
  | scene =>
      rw [reply, scene_eq, Session.reply_scene]
      rfl
  | snapshot =>
      rw [reply, Session.reply_snapshot, Session.snapshot, Session.isEnded, standing,
        Option.isNone_map]

/-- Whatever is asked of a session, one thing after the other, is replied to by number as it is in
the document. -/
theorem replies_eq (node : Option d.Ref) (context : Context) (uses : List Use) :
    replies d.entries table (standing ⟨d, table, node, context⟩) uses =
      some (Session.replies ⟨d, table, node, context⟩ uses) := by
  induction uses generalizing node context with
  | nil => rfl
  | cons use rest ih =>
      have hreply := reply_eq ⟨d, table, node, context⟩ use
      have hnext : ∃ last context', (Session.reply ⟨d, table, node, context⟩ use).2 =
          ⟨d, table, last, context'⟩ := by
        obtain ⟨last, ⟨-, hnext⟩ | ⟨card, -, -, -, -, hnext⟩⟩ :=
          @Session.reply_cases d table node context use
        · exact ⟨last, _, hnext⟩
        · exact ⟨last, _, hnext⟩
      obtain ⟨last, context', hnext⟩ := hnext
      rw [hnext] at hreply
      rw [replies, Session.replies, hnext]
      change (reply d.entries table _ use >>= _) = _
      rw [hreply]
      change (replies d.entries table _ rest >>= _) = _
      rw [ih last context']
      rfl

theorem opened_eq (opening : Opening) :
    opened d.entries opening = found ((Session.opened d table opening).map standing) := by
  cases opening with
  | start context => exact start_eq context
  | resume snapshot => exact resume_eq snapshot

theorem exists_node_of_opened {opening : Opening} {session : Session}
    (h : Session.opened d table opening = .ok session) :
    ∃ node context, session = ⟨d, table, node, context⟩ := by
  cases opening with
  | start context =>
      obtain ⟨node, hsession⟩ := Session.exists_node_of_openedIn (.start h)
      exact ⟨node, context, hsession⟩
  | resume snapshot =>
      obtain ⟨node, hsession⟩ := Session.exists_node_of_openedIn (.resume h)
      exact ⟨node, snapshot.context, hsession⟩

theorem settled_of_opened {opening : Opening} {session : Session}
    (h : Session.opened d table opening = .ok session) : session.Settled := by
  cases opening with
  | start context => exact Session.settled_of_start h
  | resume snapshot => exact Session.settled_of_resume h

theorem code_ne_of_mem_replies {session : Session} (h : session.Settled) {uses : List Use}
    {fault : Fault} (hmem : .error fault ∈ session.replies uses) :
    fault.cause.code ≠ "SESSION_UNSETTLED" := by
  induction uses generalizing session with
  | nil => cases hmem
  | cons use rest ih =>
      rcases List.mem_cons.1 hmem with hfirst | hrest
      · exact Session.code_ne_of_reply h hfirst.symm
      · exact ih (Session.settled_reply h use) hrest

/-- Every look-up that a session makes is that of an entry, and every loop ends within as many turns
as there are entries: whatever the text, the table, the opening and the uses, play by number has a
result, and it is that of play in the document. No reply is that of a session which is parked on a
trigger. -/
theorem told_eq_found (text : String) (table : Encounters) (opening : Opening)
    (uses : List Use) :
    told text table opening uses = found (Session.told text table opening uses) ∧
      ∀ answers, Session.told text table opening uses = .ok answers →
        ∀ fault, .error fault ∈ answers → fault.cause.code ≠ "SESSION_UNSETTLED" := by
  unfold told Session.told
  simp only [Except.bind_eq_bind]
  constructor
  · refine found_bind ?_
    intro d
    rw [@opened_eq d table]
    cases hopened : Session.opened d table opening with
    | error fault => rfl
    | ok session =>
        obtain ⟨node, context, rfl⟩ := exists_node_of_opened hopened
        change ExceptT.lift (replies d.entries table (standing ⟨d, table, node, context⟩) uses) = _
        rw [replies_eq]
        rfl
  · intro answers h fault hmem
    obtain ⟨d, -, h⟩ := Except.bind_eq_ok_iff.1 h
    obtain ⟨session, hopened, h⟩ := Except.bind_eq_ok_iff.1 h
    cases h
    exact code_ne_of_mem_replies (settled_of_opened hopened) hmem

/-- A mill with a cellar, and a rat behind it that sends the player back to the mill. -/
def mill : String :=
  "<quest><roleplay id='mill'><choice text='down'><roleplay><p>dark</p></roleplay></choice>" ++
    "</roleplay><combat><e>Rat</e><event on='win'><trigger>goto mill</trigger></event>" ++
    "<event on='lose'><trigger>end</trigger></event></combat></quest>"

/-- Out of the cellar the way leads to the rat, and from there back to the mill. A snapshot with the
number of no node is turned down. -/
theorem told_eq_found_mill :
    (∃ answers, told mill .empty (.start .empty) [.choose 0, .choose 0, .resolve "win", .snapshot] =
        found (.ok answers) ∧ answers.getLast?.map Except.toOption =
          some (some (.kept ⟨some 1, .empty, false⟩)) ∧
        ∀ fault, .error fault ∈ answers → fault.cause.code ≠ "SESSION_UNSETTLED") ∧
      told mill .empty (.resume ⟨some 99, .empty, false⟩) [.scene] =
        found (.error (.ofCause (.snapshotNode 99))) := by
  have hwalk : (Session.told mill .empty (.start .empty)
      [.choose 0, .choose 0, .resolve "win", .snapshot]).toOption.map
        (fun answers => answers.getLast?.map Except.toOption) =
      some (some (some (.kept ⟨some 1, .empty, false⟩))) := by
    decide +kernel
  have hstray : Session.told mill .empty (.resume ⟨some 99, .empty, false⟩) [.scene] =
      .error (.ofCause (.snapshotNode 99)) := by
    decide +kernel
  obtain ⟨answers, hanswers, hlast⟩ := Option.map_eq_some_iff.1 hwalk
  have htold := Except.toOption_eq_some_iff.1 hanswers
  obtain ⟨hfound, hsettled⟩ := told_eq_found mill .empty (.start .empty)
    [.choose 0, .choose 0, .resolve "win", .snapshot]
  refine ⟨⟨answers, htold ▸ hfound, hlast, hsettled answers htold⟩, ?_⟩
  rw [(told_eq_found mill .empty (.resume ⟨some 99, .empty, false⟩) [.scene]).1, hstray]

end Checked

end Gamebook
