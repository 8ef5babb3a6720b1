import Gamebook.Fault
import Gamebook.Play.Journal

/-! # Playing

A step of play has an answer or a fault, and writes entries into the journal on the way to either.
The answer of a sequence of steps is that of the steps without their entries.
-/

namespace Gamebook

/-- Steps of play: they may fail, and what they wrote into the journal stays written. -/
abbrev Play := ExceptT Fault Logged

namespace Play

variable {α β : Type}

/-- What comes of a step of play, without what it wrote. -/
def answer (x : Play α) : Except Fault α :=
  x.run.value

/-- Writes one entry into the journal. -/
def write (entry : JournalEntry) : Play PUnit :=
  ExceptT.lift (Logged.write entry)

/-- Goes on with a value that may be missing. -/
def ofOption (fault : Fault) : Option α → Play α
  | some a => pure a
  | none => throw fault

/-- Goes on with something that needs no journal. -/
def ofExcept : Except Fault α → Play α
  | .ok a => pure a
  | .error fault => throw fault

@[simp]
theorem answer_pure (a : α) : answer (pure a) = .ok a := rfl

@[simp]
theorem answer_throw (fault : Fault) : answer (throw fault : Play α) = .error fault := rfl

@[simp]
theorem answer_lift (x : Logged α) : answer (ExceptT.lift x) = .ok x.value := rfl

@[simp]
theorem answer_write (entry : JournalEntry) : answer (write entry) = .ok ⟨⟩ := rfl

@[simp]
theorem answer_ofExcept (x : Except Fault α) : answer (ofExcept x) = x := by
  cases x <;> rfl

@[simp]
theorem answer_bind (x : Play α) (f : α → Play β) :
    answer (x >>= f) = (answer x).bind fun a => answer (f a) := by
  change (ExceptT.bindCont f x.run.value).value = (x.run.value).bind fun a => answer (f a)
  cases x.run.value <;> rfl

end Play

end Gamebook
