import Gamebook.Play.Visibility
import Gamebook.Proofs.Result
import Gamebook.Proofs.Script.Variables

/-! # Adding variables

A variable that is new to a context can only help an expression that asked for it: what had a value
keeps it, and what failed for another reason still fails in the same way (`eval_of_extends`). What
is never asked for, behind an operator that its left operand decides, makes no difference either
way.
-/

namespace Gamebook

namespace Script

variable {a b : Context}

/-! ## Undefined variables -/

theorem applyUnary_ne_undefined {op : UnaryOp} {operand : Value} {name : String} :
    applyUnary op operand ≠ .error (.undefinedVariable name) := by
  cases op with
  | not => exact nofun
  | negate => cases operand <;> exact nofun

theorem eq_divisionByZero_of_arithmetic {op : BinaryOp} {x y : Float} {failure : Failure}
    (h : arithmetic op x y = .error failure) : failure = .divisionByZero := by
  unfold arithmetic at h
  split at h
  case h_3 | h_4 =>
    split at h
    · cases h
      rfl
    · cases h
  all_goals cases h

theorem applyBinary_ne_undefined {op : BinaryOp} {left right : Value} {name : String} :
    applyBinary op left right ≠ .error (.undefinedVariable name) := by
  intro h
  unfold applyBinary at h
  split at h
  case h_5 => split at h <;> cases h
  case h_6 | h_7 | h_8 | h_9 =>
    split at h
    · cases eq_divisionByZero_of_arithmetic (Except.map_eq_error_iff.1 h)
    · cases h
  case h_10 | h_11 | h_12 | h_13 => split at h <;> cases h
  all_goals cases h

/-- A variable is missed only if it stands in the expression and the context has no value for it. -/
theorem Expr.of_eval_eq_undefined {context : Context} {e : Expr} {name : String}
    (h : e.eval context = .error (.undefinedVariable name)) :
    name ∈ e.reads ∧ context.get? name = none := by
  induction e with
  | literal value => cases h
  | var other =>
      rw [eval] at h
      split at h
      next => cases h
      next hnone =>
        cases h
        exact ⟨List.mem_cons_self, hnone⟩
  | unary op operand ih =>
      rw [eval, Except.bind_eq_bind] at h
      rcases Except.bind_eq_error_iff.1 h with hoperand | ⟨value, -, happly⟩
      · exact ih hoperand
      · exact absurd happly applyUnary_ne_undefined
  | binary op left right ihleft ihright =>
      rw [eval, Except.bind_eq_bind] at h
      rcases Except.bind_eq_error_iff.1 h with hleft | ⟨first, -, h⟩
      · exact (ihleft hleft).imp_left (List.mem_append_left _)
      · split at h
        next => cases h
        next =>
          rcases Except.bind_eq_error_iff.1 h with hright | ⟨second, -, happly⟩
          · exact (ihright hright).imp_left (List.mem_append_right _)
          · exact absurd happly applyBinary_ne_undefined

/-! ## More variables -/

/-- An expression that misses no variable has the same value or failure in a context with more of
them. The operands that are evaluated miss none either, so the induction needs no more than that. -/
theorem Expr.eval_eq_of_extends (h : a.Extends b) {e : Expr}
    (hfound : ∀ name, e.eval a ≠ .error (.undefinedVariable name)) : e.eval b = e.eval a := by
  induction e with
  | literal value => rfl
  | var name =>
      cases hname : a.get? name with
      | none =>
          refine absurd ?_ (hfound name)
          simp only [eval, hname]
      | some value => simp only [eval, hname, h name value hname]
  | unary op operand ih =>
      have hoperand : operand.eval b = operand.eval a := by
        apply ih
        intro name hname
        refine hfound name ?_
        rw [eval, hname]
        rfl
      rw [eval, eval, hoperand]
  | binary op left right ihleft ihright =>
      have hleft : left.eval b = left.eval a := by
        apply ihleft
        intro name hname
        refine hfound name ?_
        rw [eval, hname]
        rfl
      rw [eval, eval, hleft]
      cases hfirst : left.eval a with
      | error failure => rfl
      | ok first =>
          dsimp only [bind, Except.bind]
          cases hdecided : decidedByLeft? op first with
          | some value => rfl
          | none =>
              -- Only now is the right operand asked for its value.
              have hright : right.eval b = right.eval a := by
                apply ihright
                intro name hname
                refine hfound name ?_
                simp only [eval, hfirst, hname, hdecided, bind, Except.bind]
              rw [hright]

theorem Expr.eval_eq_ok_of_extends (h : a.Extends b) {e : Expr} {value : Value}
    (hvalue : e.eval a = .ok value) : e.eval b = .ok value := by
  rw [← hvalue]
  apply eval_eq_of_extends h
  rw [hvalue]
  exact fun name => nofun

end Script

/-! ## Conditions -/

theorem conditionValue_of_extends {a b : Context} (h : a.Extends b) {condition : String}
    {value : Value} (hvalue : conditionValue condition a = .ok value) :
    conditionValue condition b = .ok value := by
  unfold conditionValue at hvalue ⊢
  split at hvalue
  next e hread => exact Script.Expr.eval_eq_ok_of_extends h hvalue
  next => cases hvalue

/-- A node takes part if its condition, if it has one, has a value that counts as true. -/
theorem Node.value_isEnabled_iff {node : Node} {context : Context} :
    (node.isEnabled context).value = true ↔ ∀ condition, node.condition? = some condition →
      ∃ value, conditionValue condition context = .ok value ∧ value.isTruthy = true := by
  unfold isEnabled
  cases hcondition : node.condition? with
  | none => simp
  | some condition => cases hvalue : conditionValue condition context <;> simp [hvalue]

/-- In a context with more variables, which gives those that were there the values that they had, an
expression keeps its value, and so it does its failure unless a variable was missing. A variable
that is missing stands in the expression and not in the context. So a node that takes part goes on
to do so: what is new can only bring in others. -/
theorem Script.Expr.eval_of_extends {a b : Context} (h : a.Extends b) (e : Expr) :
    (∀ value, e.eval a = .ok value → e.eval b = .ok value) ∧
    (∀ failure, e.eval a = .error failure → (∀ name, failure ≠ .undefinedVariable name) →
      e.eval b = .error failure) ∧
    (∀ name, e.eval a = .error (.undefinedVariable name) →
      name ∈ e.reads ∧ a.contains name = false) ∧
    (∀ node : Node, (node.isEnabled a).value = true → (node.isEnabled b).value = true) := by
  refine ⟨fun value => eval_eq_ok_of_extends h, ?_, ?_, ?_⟩
  · intro failure hfailure hother
    rw [← hfailure]
    apply eval_eq_of_extends h
    rw [hfailure]
    intro name heq
    exact hother name (Except.error.inj heq)
  · intro name hname
    obtain ⟨hreads, hnone⟩ := of_eval_eq_undefined hname
    exact ⟨hreads, by rw [NameMap.contains, hnone]; rfl⟩
  · intro node hpart
    rw [Node.value_isEnabled_iff] at hpart ⊢
    intro condition hcondition
    obtain ⟨value, hvalue, htruthy⟩ := hpart condition hcondition
    exact ⟨value, conditionValue_of_extends h hvalue, htruthy⟩

/-- A door that is barred. -/
def doorway : Context :=
  NameMap.ofList [("barred", .boolean true)]

/-- What shows that there is no way through the door. Where it is barred nobody asks for the key. -/
def notice : Node :=
  { Node.bare .text with attributes := NameMap.ofList [("condition", "barred or key == 'lost'")] }

/-- The notice stays when there is a key, and what makes no sense does not come to make sense; but
what missed the key has a value. -/
theorem Script.Expr.eval_of_extends_doorway :
    (notice.isEnabled doorway).value = true ∧
      (notice.isEnabled (NameMap.insert doorway "key" (.string "iron"))).value = true ∧
      (Expr.unary .negate (.var "barred")).eval (NameMap.insert doorway "key" (.string "iron")) =
        .error (.negation .boolean) ∧
      (Expr.var "key").eval doorway = .error (.undefinedVariable "key") ∧
      (Expr.var "key").eval (NameMap.insert doorway "key" (.string "iron")) =
        .ok (.string "iron") := by
  have hextends : doorway.Extends (NameMap.insert doorway "key" (.string "iron")) := by
    intro name value hvalue
    rw [NameMap.get?_insert_of_ne, hvalue]
    rintro rfl
    cases hvalue
  have hpart : (notice.isEnabled doorway).value = true := by
    decide +kernel
  obtain ⟨-, hfailure, -, hnodes⟩ := eval_of_extends hextends (.unary .negate (.var "barred"))
  exact ⟨hpart, hnodes notice hpart, hfailure _ rfl fun name => nofun, rfl, rfl⟩

end Gamebook
