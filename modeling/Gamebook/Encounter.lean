import Gamebook.NameMap
import Gamebook.Text.Blank
import Gamebook.Text.Lowercase

/-! # Encounters

A table of encounters tells what is known of an enemy by its name. Names are compared in small
letters and without blanks around them: `lookup?_insert` says what an insertion does to look-ups.
-/

namespace Gamebook

/-- What is known of an enemy. -/
structure Encounter where
  name : String
  tier : UInt32
  kind : Option String
deriving DecidableEq

/-- The name by which a table knows an enemy. -/
def encounterKey (name : String) : String :=
  Text.lowercase (Text.trimmed name)

/-- A table of encounters. -/
structure Encounters where
  byKey : NameMap Encounter
deriving DecidableEq

namespace Encounters

/-- The table without encounters. -/
def empty : Encounters := ⟨NameMap.empty⟩

/-- The table with an encounter under a name, in place of an older one. -/
def insert (table : Encounters) (name : String) (encounter : Encounter) : Encounters :=
  ⟨table.byKey.insert (encounterKey name) encounter⟩

/-- The encounter whose key is given. -/
def lookup? (table : Encounters) (key : String) : Option Encounter :=
  table.byKey.get? key

/-- The number of encounters. -/
def size (table : Encounters) : Nat := table.byKey.size

/-- The table with an encounter under each name, put in one after the other. -/
def ofList (encounters : List (String × Encounter)) : Encounters :=
  encounters.foldl (fun table (name, encounter) => table.insert name encounter) empty

/-- The encounters that every gamebook can use. -/
def bundled : Encounters :=
  ofList <| List.map (fun encounter => (encounter.name, encounter))
    [⟨"Skeleton Swordsman", 1, some "Undead"⟩,
      ⟨"Skeleton Mage", 1, some "Undead"⟩,
      ⟨"Floating Skull", 1, some "Undead"⟩,
      ⟨"Undead Viking", 2, some "Undead"⟩,
      ⟨"Wraith", 2, some "Undead"⟩,
      ⟨"Lich", 4, some "Undead"⟩,
      ⟨"Giant Rat", 1, some "Beast"⟩,
      ⟨"Wolf", 1, some "Beast"⟩,
      ⟨"Bandit", 1, some "Human"⟩,
      ⟨"Mercenary", 2, some "Human"⟩]

theorem lookup?_insert (table : Encounters) (name key : String) (encounter : Encounter) :
    (table.insert name encounter).lookup? key =
      if key = encounterKey name then some encounter else table.lookup? key :=
  NameMap.get?_insert table.byKey (encounterKey name) key encounter

end Encounters

end Gamebook
