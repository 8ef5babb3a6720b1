import Gamebook.Proofs.Result
import Gamebook.Script.Evaluation

/-! # Statements one after the other

Each statement of a script finds the context that the statements before it have left. What a script
does is listed as assignments all the same, and these are made at once and only if no statement
fails. `run_append` says that this comes to the same, wherever a script is divided.
-/

namespace Gamebook

namespace Context

variable {α : Type} {step : Context → α → Context → Prop}

/-- Steps from one context to the next, taken for the items of a list in turn. -/
inductive InTurn (step : Context → α → Context → Prop) : Context → List α → Context → Prop where
  | nil {context : Context} : InTurn step context [] context
  | cons {context next last : Context} {first : α} {rest : List α}
      (hfirst : step context first next) (hrest : InTurn step next rest last) :
      InTurn step context (first :: rest) last

/-- Steps that always lead to one context lead to one context in turn. -/
theorem inTurn_iff_eq_foldl {f : Context → α → Context}
    (hstep : ∀ context item next, step context item next ↔ next = f context item)
    {context last : Context} {items : List α} :
    InTurn step context items last ↔ last = items.foldl f context := by
  constructor
  · intro h
    induction h with
    | nil => rfl
    | cons hfirst _ ih => rw [List.foldl_cons, ← (hstep _ _ _).1 hfirst, ih]
  · rintro rfl
    induction items generalizing context with
    | nil => exact .nil
    | cons first rest ih => exact .cons ((hstep _ _ _).2 rfl) ih

/-- What relates the contexts around each of the steps relates those around all of them. -/
theorem InTurn.relates {related : Context → Context → Prop} (hrefl : ∀ a, related a a)
    (htrans : ∀ a b c, related a b → related b c → related a c) {context last : Context}
    {items : List α} (h : InTurn step context items last)
    (hstep : ∀ item ∈ items, ∀ a b, step a item b → related a b) : related context last := by
  induction h with
  | nil => exact hrefl _
  | cons hfirst _ ih =>
      obtain ⟨hhead, htail⟩ := List.forall_mem_cons.1 hstep
      exact htrans _ _ _ (hhead _ _ hfirst) (ih htail)

end Context

namespace Script

open Context

/-- A statement that does not fail in a context leaves another one, in which nothing is new but the
value of the variable that it assigns. -/
inductive Statement.Leaves : Context → Statement → Context → Prop where
  | assign {context : Context} {name : String} {e : Expr} {value : Value}
      (heval : e.eval context = .ok value) :
      Leaves context (.assign name e) (NameMap.insert context name value)
  | expr {context : Context} {e : Expr} {value : Value} (heval : e.eval context = .ok value) :
      Leaves context (.expr e) context

/-- One of the statements fails in this way, and none before it does. -/
def FailsFirst (context : Context) (statements : List Statement) (failure : Failure) : Prop :=
  ∃ before statement after between, statements = before ++ statement :: after ∧
    InTurn Statement.Leaves context before between ∧ statement.source.eval between = .error failure

/-- What two effects do, the second after the first. -/
def Effect.andThen (first second : Effect) : Effect :=
  ⟨second.value, first.assignments ++ second.assignments⟩

theorem Effect.apply_andThen (first second : Effect) (context : Context) :
    (first.andThen second).apply context = second.apply (first.apply context) :=
  List.foldl_append

theorem Effect.andThen_assoc (first second third : Effect) :
    (first.andThen second).andThen third = first.andThen (second.andThen third) := by
  simp only [andThen, List.append_assoc]

/-! ## One statement -/

theorem Statement.leaves_of_run {context : Context} {statement : Statement} {effect : Effect}
    (h : statement.run context = .ok effect) :
    statement.source.eval context = .ok effect.value ∧
      Leaves context statement (effect.apply context) := by
  obtain ⟨value, heval, h⟩ := Except.bind_eq_ok_iff.1 h
  cases statement with
  | assign name e =>
      cases h
      exact ⟨heval, .assign heval⟩
  | expr e =>
      cases h
      exact ⟨heval, .expr heval⟩

theorem Statement.Leaves.exists_run {context next : Context} {statement : Statement}
    (h : Leaves context statement next) :
    ∃ effect, statement.run context = .ok effect ∧ effect.apply context = next := by
  cases h with
  | @assign name e value heval =>
      refine ⟨⟨value, [(name, value)]⟩, ?_, rfl⟩
      simp only [run, source, heval]
      rfl
  | @expr e value heval =>
      refine ⟨⟨value, []⟩, ?_, rfl⟩
      simp only [run, source, heval]
      rfl

theorem Statement.run_eq_error_iff {context : Context} {statement : Statement}
    {failure : Failure} :
    statement.run context = .error failure ↔ statement.source.eval context = .error failure := by
  rw [run, Except.bind_eq_bind, Except.bind_eq_error_iff, or_iff_left]
  rintro ⟨value, -, h⟩
  cases statement <;> cases h

/-! ## Several statements -/

theorem runAll_cons (last : Value) (context : Context) (statement : Statement)
    (rest : List Statement) :
    runAll last context (statement :: rest) = (statement.run context).bind fun effect =>
      (runAll effect.value (effect.apply context) rest).map effect.andThen := by
  rw [runAll]
  cases statement.run context with
  | error failure => rfl
  | ok effect =>
      dsimp only [bind, Except.bind]
      cases runAll effect.value (effect.apply context) rest <;> rfl

/-- Statements can be run in two parts, the second in the context that the first leaves. -/
theorem runAll_append (last : Value) (context : Context) (first second : List Statement) :
    runAll last context (first ++ second) = (runAll last context first).bind fun effect =>
      (runAll effect.value (effect.apply context) second).map effect.andThen := by
  induction first generalizing last context with
  | nil =>
      change runAll last context second = (runAll last context second).map _
      cases runAll last context second <;> rfl
  | cons statement rest ih =>
      rw [List.cons_append, runAll_cons, runAll_cons]
      cases statement.run context with
      | error failure => rfl
      | ok effect =>
          dsimp only [Except.bind]
          rw [ih]
          cases runAll effect.value (effect.apply context) rest with
          | error failure => rfl
          | ok others =>
              change ((runAll others.value _ second).map others.andThen).map effect.andThen =
                (runAll others.value _ second).map (effect.andThen others).andThen
              rw [Effect.apply_andThen]
              cases runAll others.value (others.apply (effect.apply context)) second with
              | error failure => rfl
              | ok final => exact congrArg Except.ok (Effect.andThen_assoc effect others final).symm

/-- What the value is without statements makes no difference to the assignments. -/
theorem exists_runAll_of_runAll {last : Value} {context : Context} {statements : List Statement}
    {effect : Effect} (h : runAll last context statements = .ok effect) (other : Value) :
    ∃ value, runAll other context statements = .ok ⟨value, effect.assignments⟩ := by
  cases statements with
  | nil =>
      cases h
      exact ⟨other, rfl⟩
  | cons statement rest => exact ⟨effect.value, h⟩

/-- The context after the listed assignments is the one that the statements leave in turn. -/
theorem inTurn_of_runAll {last : Value} {context : Context} {statements : List Statement}
    {effect : Effect} (h : runAll last context statements = .ok effect) :
    InTurn Statement.Leaves context statements (effect.apply context) := by
  induction statements generalizing last context effect with
  | nil =>
      cases h
      exact .nil
  | cons statement rest ih =>
      rw [runAll_cons] at h
      obtain ⟨first, hfirst, h⟩ := Except.bind_eq_ok_iff.1 h
      obtain ⟨others, hothers, rfl⟩ := Except.map_eq_ok_iff.1 h
      rw [Effect.apply_andThen]
      exact .cons (Statement.leaves_of_run hfirst).2 (ih hothers)

theorem exists_runAll_of_inTurn {context next : Context} {statements : List Statement}
    (h : InTurn Statement.Leaves context statements next) (last : Value) :
    ∃ effect, runAll last context statements = .ok effect ∧ effect.apply context = next := by
  induction h generalizing last with
  | nil => exact ⟨⟨last, []⟩, rfl, rfl⟩
  | cons hfirst _ ih =>
      obtain ⟨first, hrun, rfl⟩ := hfirst.exists_run
      obtain ⟨others, hothers, rfl⟩ := ih first.value
      refine ⟨first.andThen others, ?_, Effect.apply_andThen first others _⟩
      rw [runAll_cons, hrun]
      dsimp only [Except.bind]
      rw [hothers]
      rfl

/-- Statements fail with the failure of the first of them that does. -/
theorem runAll_eq_error_iff {last : Value} {context : Context} {statements : List Statement}
    {failure : Failure} :
    runAll last context statements = .error failure ↔ FailsFirst context statements failure := by
  constructor
  · intro h
    induction statements generalizing last context with
    | nil => cases h
    | cons statement rest ih =>
        rw [runAll_cons] at h
        rcases Except.bind_eq_error_iff.1 h with hfirst | ⟨effect, hfirst, h⟩
        · exact ⟨[], statement, rest, context, rfl, .nil, Statement.run_eq_error_iff.1 hfirst⟩
        · obtain ⟨before, failing, after, between, rfl, hbefore, hfailing⟩ :=
            ih (Except.map_eq_error_iff.1 h)
          exact ⟨statement :: before, failing, after, between, rfl,
            .cons (Statement.leaves_of_run hfirst).2 hbefore, hfailing⟩
  · rintro ⟨before, statement, after, between, rfl, hbefore, hfailing⟩
    obtain ⟨effect, hrun, rfl⟩ := exists_runAll_of_inTurn hbefore last
    rw [runAll_append, hrun]
    dsimp only [Except.bind]
    rw [runAll_cons, Statement.run_eq_error_iff.2 hfailing]
    rfl

/-- The value is that of the last statement, in the context that those before it leave. -/
theorem eval_of_runAll_concat {last : Value} {context : Context} {before : List Statement}
    {statement : Statement} {effect : Effect}
    (h : runAll last context (before ++ [statement]) = .ok effect) :
    ∃ between, InTurn Statement.Leaves context before between ∧
      statement.source.eval between = .ok effect.value := by
  rw [runAll_append] at h
  obtain ⟨first, hbefore, h⟩ := Except.bind_eq_ok_iff.1 h
  obtain ⟨others, hothers, rfl⟩ := Except.map_eq_ok_iff.1 h
  rw [runAll_cons] at hothers
  obtain ⟨only, honly, hothers⟩ := Except.bind_eq_ok_iff.1 hothers
  cases hothers
  exact ⟨first.apply context, inTurn_of_runAll hbefore, (Statement.leaves_of_run honly).1⟩

/-! ## A script in two parts -/

/-- A script fails with the failure of its first statement that fails after those before it, and
then nothing is assigned. Otherwise it does what its two parts do, wherever it is divided: the
assignments are those of the first part and then those of the second in the context that the first
leaves, the value is that of the last statement, and to make the assignments at once leaves the
context that the statements leave in turn, which is also that of one part after the other. -/
theorem run_append (context : Context) (first second : List Statement) :
    (∀ failure, run context ⟨first ++ second⟩ = .error failure ↔
      FailsFirst context (first ++ second) failure) ∧
    (∀ failure, FailsFirst context (first ++ second) failure →
      contextAfter context (run context ⟨first ++ second⟩) = context) ∧
    ((∀ failure, ¬ FailsFirst context (first ++ second) failure) →
      ∃ e₁ e₂ value, run context ⟨first⟩ = .ok e₁ ∧ run (e₁.apply context) ⟨second⟩ = .ok e₂ ∧
        run context ⟨first ++ second⟩ = .ok ⟨value, e₁.assignments ++ e₂.assignments⟩ ∧
        (∀ before last, first ++ second = before ++ [last] →
          ∃ between, InTurn Statement.Leaves context before between ∧
            last.source.eval between = .ok value) ∧
        (first ++ second = [] → value = .boolean true) ∧
        InTurn Statement.Leaves context (first ++ second)
          (contextAfter context (run context ⟨first ++ second⟩)) ∧
        contextAfter context (run context ⟨first ++ second⟩) =
          contextAfter (contextAfter context (run context ⟨first⟩))
            (run (contextAfter context (run context ⟨first⟩)) ⟨second⟩)) := by
  have hfails (failure : Failure) : run context ⟨first ++ second⟩ = .error failure ↔
      FailsFirst context (first ++ second) failure := runAll_eq_error_iff
  refine ⟨hfails, ?_, ?_⟩
  · intro failure h
    rw [(hfails failure).2 h]
    rfl
  · intro hnone
    cases hrun : run context ⟨first ++ second⟩ with
    | error failure => exact absurd ((hfails failure).1 hrun) (hnone failure)
    | ok effect =>
        have hparts : runAll (.boolean true) context (first ++ second) = .ok effect := hrun
        rw [runAll_append] at hparts
        obtain ⟨e₁, hfirst, hparts⟩ := Except.bind_eq_ok_iff.1 hparts
        obtain ⟨others, hothers, rfl⟩ := Except.map_eq_ok_iff.1 hparts
        obtain ⟨value, hsecond⟩ := exists_runAll_of_runAll hothers (.boolean true)
        have h₁ : run context ⟨first⟩ = .ok e₁ := hfirst
        have h₂ : run (e₁.apply context) ⟨second⟩ = .ok ⟨value, others.assignments⟩ := hsecond
        refine ⟨e₁, _, others.value, h₁, h₂, rfl, ?_, ?_, inTurn_of_runAll hrun, ?_⟩
        · intro before last heq
          rw [heq] at hrun
          obtain ⟨between, hbefore, hlast⟩ := eval_of_runAll_concat hrun
          exact ⟨between, hbefore, hlast⟩
        · intro hempty
          have hvalue : run context ⟨[]⟩ = .ok (e₁.andThen others) := hempty ▸ hrun
          exact congrArg Effect.value (Except.ok.inj hvalue).symm
        · rw [h₁]
          dsimp only [contextAfter]
          rw [h₂, Effect.apply_andThen]
          rfl

/-- A traveller who is known by name. -/
def traveller : Context :=
  NameMap.ofList [("name", .string "Ada")]

/-- The first part of a ballad, which praises the name. -/
def verse : List Statement :=
  [.assign "name" (.binary .add (.var "name") (.literal (.string "!")))]

/-- The second part, which reads what the first assigned, assigns the name once more and shows
it. -/
def refrain : List Statement :=
  [.assign "loud" (.binary .eq (.var "name") (.literal (.string "Ada!"))),
    .assign "name" (.binary .add (.var "name") (.var "name")), .expr (.var "name")]

/-- The second part finds the name that the first has assigned, and assigns it once more. A part
that asks for an unknown title undoes what is done before it. -/
theorem run_append_ballad :
    (∃ e₁ e₂, run traveller ⟨verse⟩ = .ok e₁ ∧ run (e₁.apply traveller) ⟨refrain⟩ = .ok e₂ ∧
      e₁.assignments ++ e₂.assignments =
        [("name", .string "Ada!"), ("loud", .boolean true), ("name", .string "Ada!Ada!")]) ∧
    contextAfter traveller (run traveller ⟨verse ++ .expr (.var "title") :: refrain⟩) =
      traveller := by
  have hsings : (run traveller ⟨verse ++ refrain⟩).toOption.map Effect.assignments =
      some [("name", .string "Ada!"), ("loud", .boolean true), ("name", .string "Ada!Ada!")] := by
    decide +kernel
  have hasks : run traveller ⟨verse ++ .expr (.var "title") :: refrain⟩ =
      .error (.undefinedVariable "title") := by
    rfl
  constructor
  · obtain ⟨hfails, -, hruns⟩ := run_append traveller verse refrain
    have hnone : ∀ failure, ¬ FailsFirst traveller (verse ++ refrain) failure := by
      intro failure hfailure
      rw [(hfails failure).2 hfailure] at hsings
      cases hsings
    obtain ⟨e₁, e₂, value, h₁, h₂, hrun, -⟩ := hruns hnone
    rw [hrun] at hsings
    exact ⟨e₁, e₂, h₁, h₂, Option.some.inj hsings⟩
  · obtain ⟨hfails, hundone, -⟩ :=
      run_append traveller verse (.expr (.var "title") :: refrain)
    exact hundone _ ((hfails _).1 hasks)

end Script

end Gamebook
