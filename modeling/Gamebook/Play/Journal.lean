import Gamebook.Document.Tag
import Gamebook.Script.Failure

/-! # The journal of play

While a gamebook is played, entries are written into a journal that no player sees: conditions and
scripts that fail, and how play moved. The journal never has an influence on play. `value_bind` says
so: the value of a sequence of steps is that of the steps without their entries.
-/

namespace Gamebook

/-- What is written into the journal. Nodes are given by their numbers. -/
inductive JournalEntry where
  | hidden (tag : Tag) (condition : String) (failure : Script.Failure)
  | unreadableSpan (body : String)
  | skippedAssignment (body : String) (failure : Script.Failure)
  | choiceTaken (index node : Nat)
  | choiceEnds (index node : Nat)
  | eventTaken (name : String) (node : Nat)
  | combatShown (node enemies : Nat)
  | roleplayShown (node items choices : Nat)
  | sessionStarted (node : Option Nat)
  | movedByChoice (index node : Nat) (next : Option Nat)
  | movedByEvent (name : String) (node : Nat) (next : Option Nat)
deriving DecidableEq

namespace JournalEntry

/-- Whether an entry tells of a fault in the gamebook. -/
def isWarning : JournalEntry → Bool
  | hidden .. => true
  | _ => false

/-- How a node is named in the journal. -/
def nodeText (node : Nat) : String :=
  "NodeId(" ++ Number.wholeText node ++ ")"

/-- How a node that may be missing is named in the journal. -/
def optionalNodeText : Option Nat → String
  | some node => "Some(" ++ nodeText node ++ ")"
  | none => "None"

/-- An entry as it is written. -/
def text : JournalEntry → String
  | hidden tag condition failure =>
    "hiding <" ++ tag.element ++ "> with unevaluable condition \"" ++ condition ++ "\": "
      ++ failure.message
  | unreadableSpan body => "state block span \"" ++ body ++ "\" does not parse"
  | skippedAssignment body failure =>
    "skipping state assignment \"" ++ body ++ "\": " ++ failure.message
  | choiceTaken index node =>
    "choice " ++ Number.wholeText index ++ " resolved to node " ++ nodeText node
  | choiceEnds index node =>
    "choice " ++ Number.wholeText index ++ " on node " ++ nodeText node ++ " ends the quest"
  | eventTaken name node => "event \"" ++ name ++ "\" resolved to node " ++ nodeText node
  | combatShown node enemies =>
    "combat node " ++ nodeText node ++ " with " ++ Number.wholeText enemies ++ " enemies"
  | roleplayShown node items choices =>
    "roleplay node " ++ nodeText node ++ " with " ++ Number.wholeText items
      ++ " content items and " ++ Number.wholeText choices ++ " choices"
  | sessionStarted node => "session started at " ++ optionalNodeText node
  | movedByChoice index node next =>
    "choice " ++ Number.wholeText index ++ " moved session from " ++ nodeText node ++ " to "
      ++ optionalNodeText next
  | movedByEvent name node next =>
    "event \"" ++ name ++ "\" moved session from " ++ nodeText node ++ " to "
      ++ optionalNodeText next

end JournalEntry

/-- A value with the entries that were written while it was found, in order. -/
structure Logged (α : Type) where
  value : α
  journal : List JournalEntry

namespace Logged

variable {α β : Type}

instance : Monad Logged where
  pure a := ⟨a, []⟩
  bind x f :=
    let y := f x.value
    ⟨y.value, x.journal ++ y.journal⟩

/-- Writes one entry. -/
def write (entry : JournalEntry) : Logged PUnit :=
  ⟨⟨⟩, [entry]⟩

@[simp]
theorem value_pure (a : α) : (pure a : Logged α).value = a := rfl

@[simp]
theorem value_bind (x : Logged α) (f : α → Logged β) : (x >>= f).value = (f x.value).value := rfl

@[simp]
theorem value_map (f : α → β) (x : Logged α) : (f <$> x).value = f x.value := rfl

@[simp]
theorem value_write (entry : JournalEntry) : (write entry).value = ⟨⟩ := rfl

instance : LawfulMonad Logged :=
  LawfulMonad.mk' Logged
    (fun x => by cases x; simp [Functor.map])
    (fun _ _ => by simp [pure, bind])
    (fun _ _ _ => by simp [bind])

end Logged

end Gamebook
