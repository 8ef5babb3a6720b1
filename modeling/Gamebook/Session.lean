import Gamebook.Document.Reader
import Gamebook.Play.Branch
import Gamebook.Play.Card

/-! # Sessions

A session plays one document. Between two inputs it is at a piece of story or at a combat, or it has
ended; triggers are followed as soon as play arrives at them. A step that fails leaves the session
as it was.
-/

namespace Gamebook

/-- Where play is in a document. -/
structure Session where
  document : Document
  encounters : Encounters
  node : Option document.Ref
  context : Context

/-- A place in some document, by the number of a node. -/
structure Snapshot where
  node : Option Nat
  context : Context
  ended : Bool
deriving DecidableEq

/-- What a player is shown. -/
inductive Scene where
  | roleplay (step : RoleplayStep)
  | combat (step : CombatStep)
  | finish
deriving DecidableEq

/-- The number of triggers that are followed one after the other before play gives up. -/
def maxTriggers : Nat := 10000

namespace Document

/-- Follows triggers until play arrives at another card or the quest ends. -/
def followTriggers (d : Document) : Nat → Option d.Ref → Except Fault (Option d.Ref)
  | 0, _ => .error (.ofCause (.endlessTriggers maxTriggers))
  | _ + 1, none => .ok none
  | hops + 1, some r =>
    if d.tag r = .trigger then
      match d.loadTrigger r with
      | .error fault => .error fault
      | .ok trigger =>
        match trigger.kind with
        | .finish => d.followTriggers hops none
        | .goto => d.followTriggers hops (some trigger.target)
    else .ok (some r)

/-- The first card of the quest that takes part. -/
def firstEnabledCard (d : Document) (context : Context) : Logged (Option d.Ref) :=
  d.visitChildren d.root (d.enabledCard? context)

end Document

namespace Session

/-- A session at the beginning of a document. -/
def start (d : Document) (encounters : Encounters) (context : Context) : Play Session := do
  match ← d.firstEnabledCard context with
  | none => throw (.ofCause .questWithoutCard)
  | some card =>
    let node ← Play.ofExcept (d.followTriggers maxTriggers (some card))
    Play.write (.sessionStarted (node.map Fin.val))
    return ⟨d, encounters, node, context⟩

/-- The place in a document that a snapshot gives, if play can be there. -/
def placeOf (d : Document) (snapshot : Snapshot) : Except Fault (Option d.Ref) :=
  if snapshot.ended then .ok none
  else
    match snapshot.node with
    | none => .error (.ofCause .snapshotWithoutNode)
    | some number =>
      match d.ref? number with
      | some r =>
        if d.tag r = .roleplay ∨ d.tag r = .combat then .ok (some r)
        else .error (.ofCause (.snapshotNode number))
      | none => .error (.ofCause (.snapshotNode number))

/-- The session that goes on from a snapshot. -/
def resume (d : Document) (encounters : Encounters) (snapshot : Snapshot) :
    Except Fault Session :=
  match placeOf d snapshot with
  | .ok node => .ok ⟨d, encounters, node, snapshot.context⟩
  | .error fault => .error fault

variable (session : Session)

/-- The title of the quest. -/
def title? : Option String :=
  session.document.metadata.get? "title"

/-- Whether the quest has ended. -/
def isEnded : Bool := session.node.isNone

/-- The place of a session, from which it can be resumed. -/
def snapshot : Snapshot :=
  ⟨session.node.map Fin.val, session.context, session.isEnded⟩

/-- What the player is shown now. -/
def scene : Play Scene := do
  match session.node with
  | none => return .finish
  | some r =>
    match ← session.document.loadStep session.encounters r session.context with
    | .roleplay step => return .roleplay step
    | .combat step => return .combat step
    | .trigger .. => throw (.ofCause .parkedOnTrigger)

/-- The node that the session is at, which must be of a kind. -/
def expect (tag : Tag) (cause : Tag → Cause) : Except Fault session.document.Ref :=
  match session.node with
  | none => .error (.ofCause .sessionEnded)
  | some r =>
    if session.document.tag r = tag then .ok r
    else .error (.ofCause (cause (session.document.tag r)))

/-- Where taking a choice leads before triggers are followed. A branch that has run out goes on
beside the cards around it; only a trigger or the end of the outermost card ends the quest. -/
def afterChoice (r : session.document.Ref) (index : Nat) (context : Context) :
    Play (Option session.document.Ref) := do
  match ← session.document.takeChoice r index context with
  | some next => return some next
  | none =>
    if ← session.document.hasEndTrigger r context then return none
    else
      let next ← session.document.fallThrough r context
      return next

/-- The session after the choice with a number has been taken. -/
def choose (index : Nat) : Play Session := do
  let r ← Play.ofExcept (session.expect .roleplay .noChoiceHere)
  let step ← session.document.loadRoleplay r session.context
  if step.choices.length ≤ index then
    throw (.ofCause (.choiceOutOfRange index step.choices.length))
  let next ← session.afterChoice r index step.context
  let node ← Play.ofExcept (session.document.followTriggers maxTriggers next)
  Play.write (.movedByChoice index r.val (node.map Fin.val))
  return { session with node := node, context := step.context }

/-- The session after a combat has had the named outcome, with what that gives to the player. -/
def resolveCombat (name : String) : Play (EventParameters × Session) := do
  let r ← Play.ofExcept (session.expect .combat .noCombatHere)
  let _ ← session.document.loadCombat session.encounters r session.context
  let parameters ← session.document.eventParameters r name session.context
  let next ← session.document.takeEvent r name session.context
  let node ← Play.ofExcept (session.document.followTriggers maxTriggers (some next))
  Play.write (.movedByEvent name r.val (node.map Fin.val))
  return (parameters, { session with node := node })

end Session

end Gamebook
