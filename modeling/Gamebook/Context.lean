import Gamebook.NameMap
import Gamebook.Value

/-! # Contexts

A context gives the variables of a gamebook their values. An assignment makes a new context and
leaves the old one as it was.
-/

namespace Gamebook

/-- The values of the variables at one moment of play. -/
abbrev Context := NameMap Value

namespace Context

/-- Whether two contexts have the same variables with values that agree. -/
def agrees (a b : Context) : Bool :=
  a.names == b.names && (a.entries.zip b.entries).all fun (x, y) => x.2.agrees y.2

/-- The context after a list of assignments, made from left to right. -/
def assignAll (context : Context) (assignments : List (String × Value)) : Context :=
  NameMap.insertAll context assignments

/-- Whether every variable of the first context has the same value in the second. -/
def Extends (a b : Context) : Prop :=
  ∀ name value, a.get? name = some value → b.get? name = some value

end Context

end Gamebook
