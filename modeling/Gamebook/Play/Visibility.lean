import Gamebook.Document.Basic
import Gamebook.Play.Journal
import Gamebook.Script.Evaluation
import Gamebook.Script.Parse

/-! # Visibility

A node takes part only while its condition holds. A condition that is no expression, or has no
value, does not hold.
-/

namespace Gamebook

/-- The value of a condition. -/
def conditionValue (condition : String) (context : Context) : Except Script.Failure Value :=
  match Script.Expr.ofText condition.toList with
  | .ok expr => expr.eval context
  | .error failure => .error (.parse failure)

/-- Whether a node takes part. A node without a condition always does. -/
def Node.isEnabled (node : Node) (context : Context) : Logged Bool :=
  match node.condition? with
  | none => pure true
  | some condition =>
    match conditionValue condition context with
    | .ok value => pure value.isTruthy
    | .error failure => do
      Logged.write (.hidden node.tag condition failure)
      return false

/-- Whether the node with a number takes part. -/
def Document.isEnabled (d : Document) (r : d.Ref) (context : Context) : Logged Bool :=
  (d.node r).isEnabled context

end Gamebook
