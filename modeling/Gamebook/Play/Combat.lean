import Gamebook.Encounter
import Gamebook.Play.Basic
import Gamebook.Play.StateBlock
import Gamebook.Play.Step

/-! # Combats

A combat shows its enemies and must provide for both outcomes. Its state block only decides which of
its nodes take part; the context that it is left with is the one that it was entered with.
-/

namespace Gamebook

/-- The name of an enemy: the value of the script that the line is, if it has one, and otherwise the
line itself. -/
def enemyName (line : String) (context : Context) : String :=
  let name := Text.trim line.toList
  match Script.ofSpan? name with
  | none => String.ofList name
  | some script =>
    match script.run context with
    | .ok effect => effect.value.text
    | .error _ => String.ofList name

/-- The enemy of a line, with what the table knows of it. An enemy that is not in the table has the
lowest tier. -/
def Encounters.enemy (table : Encounters) (line : String) (context : Context) : Enemy :=
  let name := enemyName line context
  match table.lookup? (Text.lowercase name) with
  | some encounter => ⟨encounter.name, encounter.tier, encounter.kind⟩
  | none => ⟨name, 1, none⟩

/-- What has been found in a combat so far. -/
structure Roster where
  enemies : List Enemy
  wins : Nat
  losses : Nat

namespace Roster

/-- Nothing yet. -/
def empty : Roster := ⟨[], 0, 0⟩

/-- Adds an event, which counts if it is for one of the two outcomes. -/
def addEvent (roster : Roster) (outcome : Option String) : Roster :=
  if outcome = some Outcome.win.name then { roster with wins := roster.wins + 1 }
  else if outcome = some Outcome.lose.name then { roster with losses := roster.losses + 1 }
  else roster

/-- Adds a node that takes part. `isState` says whether it belongs to the state block. -/
def add (roster : Roster) (table : Encounters) (context : Context) (isState : Bool)
    (node : Node) : Except Cause Roster :=
  match node.tag with
  | .enemyLine =>
    .ok { roster with enemies := roster.enemies ++ [table.enemy node.text context] }
  | .event => .ok (roster.addEvent node.outcome?)
  | .text => if isState then .ok roster else .error (.combatChild .text)
  | tag => .error (.combatChild tag)

/-- What is missing from a combat, if anything is. -/
def lack? (roster : Roster) : Option Cause :=
  if roster.wins = 0 then some (.combatWithoutOutcome .win)
  else if roster.losses = 0 then some (.combatWithoutOutcome .lose)
  else if roster.enemies.isEmpty then some .combatWithoutEnemies
  else none

end Roster

namespace Document

/-- Adds a child of a combat, which stands at the given place, if it takes part. -/
def addToRoster (d : Document) (table : Encounters) (context : Context) (stateCount : Nat)
    (roster : Roster) (child : d.Ref × Nat) : Play Roster := do
  if ← d.isEnabled child.1 context then
    match roster.add table context (child.2 < stateCount) (d.node child.1) with
    | .ok roster => return roster
    | .error cause => throw (d.faultAt child.1 cause)
  else
    return roster

/-- The combat that a node is, in a context. -/
def loadCombat (d : Document) (table : Encounters) (r : d.Ref) (context : Context) :
    Play CombatStep := do
  let inner ← d.updateContext r context
  let stateCount := (d.stateBlock r).length
  let roster ← (d.children r).zipIdx.foldlM (d.addToRoster table inner stateCount) Roster.empty
  match roster.lack? with
  | some cause => throw (d.faultAt r cause)
  | none =>
    Play.write (.combatShown r.val roster.enemies.length)
    return ⟨(d.node r).attribute? "icon", roster.enemies, context⟩

end Document

end Gamebook
