import Gamebook.Play.Combat
import Gamebook.Play.Roleplay

/-! # Cards

What comes of arriving at a node depends on its kind; only cards can be arrived at.
-/

namespace Gamebook.Document

/-- What comes of arriving at a node. -/
def loadStep (d : Document) (table : Encounters) (r : d.Ref) (context : Context) : Play Step :=
  match d.tag r with
  | .combat => return .combat (← d.loadCombat table r context)
  | .roleplay => return .roleplay (← d.loadRoleplay r context)
  | .trigger => do
    let trigger ← Play.ofExcept (d.loadTrigger r)
    return .trigger trigger.target.val trigger.kind
  | tag => throw (d.faultAt r (.notACard tag))

end Gamebook.Document
