import Gamebook.Proofs.Document.Representation
import Gamebook.Proofs.Play.Blame

/-! # Where faults point

In a document that was read every node has its place in the text, so that a fault of a node tells
the author where to look. `pointsWithin_of_read` says that whatever fails at a node, in loading it
or in leaving it, points at the node or at one within it.
-/

namespace Gamebook.Document

variable {d : Document} {α : Type}

/-- If an answer is a fault, then the fault has a place in the text, and it is the place of a node
that is the given one or stands in it. -/
def PointsWithin (r : d.Ref) (answer : Except Fault α) : Prop :=
  ∀ fault, answer = .error fault →
    ∃ s : d.Ref, d.StandsIn s r ∧ ∃ span, (d.node s).span = some span ∧ fault.span = some span

theorem FailsWithin.pointsWithin (hd : d.WellFormed) {r : d.Ref} {answer : Except Fault α}
    (h : FailsWithin r answer) : PointsWithin r answer := by
  intro fault hfault
  obtain ⟨s, hs, cause, -, rfl⟩ := h fault hfault
  obtain ⟨span, hspan⟩ := Option.isSome_iff_exists.1 (hd.span_isSome s)
  exact ⟨s, hs, span, hspan, hspan⟩

/-- In a document that was read, whatever fails when a node is loaded, when an event of it is looked
up or read, or when a choice or an event of it is taken, points at the node or at one within it. -/
theorem pointsWithin_of_read {text : String} (h : read text = .ok d) (table : Encounters)
    (r : d.Ref) (index : Nat) (name : String) (context : Context) :
    PointsWithin r (d.loadStep table r context).answer ∧
    PointsWithin r (d.loadCombat table r context).answer ∧
    PointsWithin r (d.loadRoleplay r context).answer ∧
    PointsWithin r (d.loadTrigger r) ∧
    PointsWithin r (d.findEvent r name context).answer ∧
    PointsWithin r (d.eventParameters r name context).answer ∧
    PointsWithin r (d.takeChoice r index context).answer ∧
    PointsWithin r (d.takeEvent r name context).answer := by
  have hd := wellFormed_of_read h
  refine ⟨?_, ?_, ?_, ?_, ?_, ?_, ?_, ?_⟩
  · exact (failsWithin_loadStep table r context).pointsWithin hd
  · exact (failsWithin_loadCombat table r context).pointsWithin hd
  · exact (failsWithin_loadRoleplay r context).pointsWithin hd
  · exact (failsWithin_loadTrigger r).pointsWithin hd
  · exact (failsWithin_findEvent r name context).pointsWithin hd
  · exact (failsWithin_eventParameters r name context).pointsWithin hd
  · exact (failsWithin_takeChoice r index context).pointsWithin hd
  · exact (failsWithin_takeEvent r name context).pointsWithin hd

/-- A card whose only choice holds a trigger to a place that there is not. -/
def signpost : String :=
  "<quest>\n <roleplay><p>where to?</p>\n" ++
    "  <choice text='on'><trigger>goto sea</trigger></choice></roleplay>\n</quest>"

/-- Taking the choice fails at the trigger, two levels below the card, and points at it. -/
theorem pointsWithin_of_read_signpost :
    ∃ (d : Document) (r : d.Ref), read signpost = .ok d ∧ r.val = 1 ∧
      (d.takeChoice r 0 .empty).answer =
        .error ⟨.missingTarget "sea", some ⟨⟨3, 21⟩, ⟨3, 48⟩⟩⟩ ∧
      PointsWithin r (d.takeChoice r 0 .empty).answer := by
  have hresult : (read signpost).toOption.any (fun d => (d.ref? 1).any fun r =>
      decide (r.val = 1 ∧ (d.takeChoice r 0 .empty).answer =
        .error ⟨.missingTarget "sea", some ⟨⟨3, 21⟩, ⟨3, 48⟩⟩⟩)) = true := by
    decide +kernel
  obtain ⟨d, hd, hresult⟩ := (Option.any_eq_true _ _).1 hresult
  obtain ⟨r, -, hresult⟩ := (Option.any_eq_true _ _).1 hresult
  obtain ⟨hr, hanswer⟩ := of_decide_eq_true hresult
  have hread := Except.toOption_eq_some_iff.1 hd
  obtain ⟨-, -, -, -, -, -, hpoints, -⟩ := pointsWithin_of_read hread .empty r 0 "win" .empty
  exact ⟨d, r, hread, hr, hanswer, hpoints⟩

end Gamebook.Document
