import Mathlib.Data.List.TakeWhile
import Gamebook.Play.Trigger
import Gamebook.Proofs.Document.Representation
import Gamebook.Proofs.Document.Vocabulary

/-! # Where triggers lead

A trigger says in words what it does: it ends the quest, or it names the node to go on at. In a
document that was read an id stands for one node, so `loadTrigger_of_read` can say what every
trigger does by its words and the ids of all nodes, without a word on where the trigger stands.
-/

namespace Gamebook

/-- Words that send play to the node with an id: `goto`, blanks, and the id, which has no blank in
it. -/
def SendsTo (words id : List Char) : Prop :=
  ∃ blanks, words = "goto".toList ++ (blanks ++ id) ∧ blanks ≠ [] ∧ id ≠ [] ∧
    (∀ c ∈ blanks, Text.isBlank c = true) ∧ ∀ c ∈ id, Text.isBlank c = false

/-- The id in the words is found by skipping the blanks before it. -/
theorem gotoTarget?_eq_some_iff {words id : List Char} :
    gotoTarget? words = some id ↔ SendsTo words id := by
  constructor
  · intro h
    unfold gotoTarget? at h
    split at h
    next c rest =>
      simp only [Option.ite_none_right_eq_some, Option.some.injEq, Bool.and_eq_true,
        Bool.not_eq_true', List.isEmpty_eq_false_iff, List.any_eq_false] at h
      obtain ⟨⟨⟨hfirst, hne⟩, hid⟩, rfl⟩ := h
      refine ⟨c :: rest.takeWhile Text.isBlank, ?_, List.cons_ne_nil _ _, hne, ?_, ?_⟩
      · rw [List.cons_append, List.takeWhile_append_dropWhile]
        rfl
      · exact List.forall_mem_cons.2 ⟨hfirst, fun b hb => List.mem_takeWhile_imp hb⟩
      · exact fun b hb => Bool.eq_false_iff.2 (hid b hb)
    · cases h
  · rintro ⟨blanks, rfl, hblanks, hne, hblank, hid⟩
    obtain ⟨c, blanks, rfl⟩ := List.exists_cons_of_ne_nil hblanks
    obtain ⟨hfirst, hrest⟩ := List.forall_mem_cons.1 hblank
    have hskip : (blanks ++ id).dropWhile Text.isBlank = id := by
      rw [List.dropWhile_append_of_pos hrest]
      cases id with
      | nil => rfl
      | cons first others => exact List.dropWhile_cons_of_neg (by simp [hid])
    have hany : id.any Text.isBlank = false := by
      simpa using hid
    change gotoTarget? ('g' :: 'o' :: 't' :: 'o' :: c :: (blanks ++ id)) = some id
    simp [gotoTarget?, hskip, hfirst, hne, hany]

namespace Document

variable {d : Document}

/-- What a trigger does, if it stands at another node: where it ends the quest it is itself the
target. -/
def Trigger.movedTo (s : d.Ref) (trigger : d.Trigger) : d.Trigger :=
  if trigger.kind = .finish then ⟨s, .finish⟩ else trigger

/-- Where no id is used twice, the node with an id is found wherever it stands. -/
theorem find?_root_eq_some_iff {id : String}
    (hunique : ∀ s t, (d.node s).id? = some id → (d.node t).id? = some id → s = t)
    {target : d.Ref} : d.find? d.root id = some target ↔ (d.node target).id? = some id := by
  constructor
  · intro h
    simpa using List.find?_some h
  · intro htarget
    cases hfind : d.find? d.root id with
    | none =>
        have hmem : target ∈ d.descendants d.root := mem_descendants_root target
        exact absurd htarget (by simpa using List.find?_eq_none.1 hfind target hmem)
    | some other =>
        have hother : (d.node other).id? = some id := by
          simpa using List.find?_some hfind
        rw [hunique other target hother htarget]

theorem find?_root_eq_none_iff {id : String} :
    d.find? d.root id = none ↔ ∀ s, (d.node s).id? ≠ some id := by
  rw [find?, List.find?_eq_none]
  constructor
  · intro h s
    simpa using h s (mem_descendants_root s)
  · intro h s _
    simpa using h s

/-! ## The three kinds of words -/

variable {r : d.Ref}

theorem loadTrigger_of_end (hend : Text.trimmed (d.node r).text = "end") :
    d.loadTrigger r = .ok ⟨r, .finish⟩ :=
  if_pos hend

/-- Words that send play to a node are not the end. -/
theorem ne_end_of_sendsTo {id : List Char}
    (hwords : SendsTo (Text.trimmed (d.node r).text).toList id) :
    Text.trimmed (d.node r).text ≠ "end" := by
  intro hend
  obtain ⟨blanks, heq, -⟩ := hwords
  rw [hend] at heq
  cases heq

theorem loadTrigger_of_sendsTo {id : String}
    (hwords : SendsTo (Text.trimmed (d.node r).text).toList id.toList) :
    d.loadTrigger r = match d.find? d.root id with
      | some target => .ok ⟨target, .goto⟩
      | none => .error (d.faultAt r (.missingTarget id)) := by
  rw [loadTrigger, if_neg (ne_end_of_sendsTo hwords), gotoTarget?_eq_some_iff.2 hwords, top_eq_root]
  cases hfind : d.find? d.root id with
  | none => simp [hfind]
  | some target => simp [hfind]

theorem loadTrigger_of_invalid (hend : Text.trimmed (d.node r).text ≠ "end")
    (hwords : ∀ id, ¬ SendsTo (Text.trimmed (d.node r).text).toList id) :
    d.loadTrigger r =
      .error (d.faultAt r (.invalidTrigger (Text.trimmed (d.node r).text))) := by
  have hnone : gotoTarget? (Text.trimmed (d.node r).text).toList = none := by
    rw [Option.eq_none_iff_forall_ne_some]
    intro id hid
    exact hwords id (gotoTarget?_eq_some_iff.1 hid)
  rw [loadTrigger, if_neg hend, hnone]

/-- All words are of one of three kinds. -/
theorem words_cases (r : d.Ref) :
    Text.trimmed (d.node r).text = "end" ∨
      (∃ id : String, SendsTo (Text.trimmed (d.node r).text).toList id.toList) ∨
      (Text.trimmed (d.node r).text ≠ "end" ∧
        ∀ id, ¬ SendsTo (Text.trimmed (d.node r).text).toList id) := by
  by_cases hend : Text.trimmed (d.node r).text = "end"
  · exact Or.inl hend
  · by_cases hwords : ∃ id, SendsTo (Text.trimmed (d.node r).text).toList id
    · obtain ⟨id, hid⟩ := hwords
      exact Or.inr (Or.inl ⟨String.ofList id, by rwa [String.toList_ofList]⟩)
    · exact Or.inr (Or.inr ⟨hend, not_exists.1 hwords⟩)

/-- The same words do the same wherever they stand. -/
theorem loadTrigger_congr {s : d.Ref}
    (h : Text.trimmed (d.node s).text = Text.trimmed (d.node r).text) :
    d.loadTrigger s = ((d.loadTrigger r).map (Trigger.movedTo s)).mapError
      fun fault => d.faultAt s fault.cause := by
  rcases words_cases r with hend | ⟨id, hid⟩ | ⟨hend, hwords⟩
  · rw [loadTrigger_of_end hend, loadTrigger_of_end (h.trans hend)]
    rfl
  · rw [loadTrigger_of_sendsTo hid, loadTrigger_of_sendsTo (h.symm ▸ hid)]
    cases d.find? d.root id <;> rfl
  · rw [loadTrigger_of_invalid hend hwords,
      loadTrigger_of_invalid (h.symm ▸ hend) (h.symm ▸ hwords), h]
    rfl

/-- In a document that was read a trigger ends the quest exactly if it says so. If it sends play to
an id, play goes on at the one node of the whole document that has the id, and the trigger fails
exactly if there is none; with any other words it fails. A trigger with the same words elsewhere
does the same. -/
theorem loadTrigger_of_read {text : String} (h : read text = .ok d) (r : d.Ref) :
    (∀ target, d.loadTrigger r = .ok ⟨target, .finish⟩ ↔
      Text.trimmed (d.node r).text = "end" ∧ target = r) ∧
    (∀ id : String, SendsTo (Text.trimmed (d.node r).text).toList id.toList →
      (∀ target, d.loadTrigger r = .ok ⟨target, .goto⟩ ↔ (d.node target).id? = some id) ∧
      (∀ s t, (d.node s).id? = some id → (d.node t).id? = some id → s = t) ∧
      (FailsAt (d.loadTrigger r) "TRIGGER_GOTO_TARGET_MISSING" (d.node r).span ↔
        ∀ s, (d.node s).id? ≠ some id)) ∧
    (Text.trimmed (d.node r).text ≠ "end" →
      (∀ id, ¬ SendsTo (Text.trimmed (d.node r).text).toList id) →
      FailsAt (d.loadTrigger r) "TRIGGER_INVALID" (d.node r).span) ∧
    ∀ s, Text.trimmed (d.node s).text = Text.trimmed (d.node r).text →
      d.loadTrigger s = ((d.loadTrigger r).map (Trigger.movedTo s)).mapError
        fun fault => d.faultAt s fault.cause := by
  have hunique (id : String) (s t : d.Ref) := (wellFormed_of_read h).eq_of_id? s t id
  refine ⟨?_, ?_, ?_, fun s => loadTrigger_congr⟩
  · intro target
    rcases words_cases r with hend | ⟨id, hid⟩ | ⟨hend, hwords⟩
    · rw [loadTrigger_of_end hend, and_iff_right hend]
      simp [eq_comm]
    · rw [loadTrigger_of_sendsTo hid]
      refine iff_of_false ?_ fun hend => ne_end_of_sendsTo hid hend.1
      cases d.find? d.root id <;> simp
    · rw [loadTrigger_of_invalid hend hwords]
      simp [hend]
  · intro id hid
    rw [loadTrigger_of_sendsTo hid]
    refine ⟨?_, hunique id, ?_⟩
    · intro target
      rw [← find?_root_eq_some_iff (hunique id)]
      cases d.find? d.root id <;> simp
    · rw [← find?_root_eq_none_iff]
      cases d.find? d.root id with
      | none => exact iff_of_true ⟨_, rfl, rfl, rfl⟩ rfl
      | some target =>
          refine iff_of_false ?_ (by simp)
          intro hfails
          exact hfails.ne_ok _ rfl
  · intro hend hwords
    rw [loadTrigger_of_invalid hend hwords]
    exact ⟨_, rfl, rfl, rfl⟩

/-- A harbour in which a choice leads to a card within a combat, and a lost combat leads nowhere. -/
def harbour : String :=
  "<quest><roleplay><choice text='sail'><trigger> goto \t deep\n</trigger></choice></roleplay>" ++
    "<combat><e>Crab</e><event on='win'><roleplay id='deep'/></event>" ++
    "<event on='lose'><trigger>goto shore</trigger></event></combat></quest>"

/-- Whoever sails arrives at the card within the combat, and the shore is missing. -/
theorem loadTrigger_of_read_harbour :
    ∃ (d : Document) (sail deep lost : d.Ref), read harbour = .ok d ∧
      SendsTo (Text.trimmed (d.node sail).text).toList "deep".toList ∧ deep.val = 7 ∧
      d.loadTrigger sail = .ok ⟨deep, .goto⟩ ∧
      FailsAt (d.loadTrigger lost) "TRIGGER_GOTO_TARGET_MISSING" (d.node lost).span := by
  have hresult : (read harbour).toOption.any (fun d => (d.ref? 3).any fun sail =>
      (d.ref? 7).any fun deep => (d.ref? 9).any fun lost => decide (
        gotoTarget? (Text.trimmed (d.node sail).text).toList = some "deep".toList ∧
        gotoTarget? (Text.trimmed (d.node lost).text).toList = some "shore".toList ∧
        deep.val = 7 ∧ (d.node deep).id? = some "deep" ∧
        ∀ s, (d.node s).id? ≠ some "shore")) = true := by
    decide +kernel
  obtain ⟨d, hd, hresult⟩ := (Option.any_eq_true _ _).1 hresult
  obtain ⟨sail, -, hresult⟩ := (Option.any_eq_true _ _).1 hresult
  obtain ⟨deep, -, hresult⟩ := (Option.any_eq_true _ _).1 hresult
  obtain ⟨lost, -, hresult⟩ := (Option.any_eq_true _ _).1 hresult
  obtain ⟨hsail, hlost, hnumber, hdeep, hnone⟩ := of_decide_eq_true hresult
  rw [gotoTarget?_eq_some_iff] at hsail hlost
  have hread := Except.toOption_eq_some_iff.1 hd
  obtain ⟨-, hleads, -⟩ := loadTrigger_of_read hread sail
  obtain ⟨-, hmisses, -⟩ := loadTrigger_of_read hread lost
  exact ⟨d, sail, deep, lost, hread, hsail, hnumber, ((hleads "deep" hsail).1 deep).2 hdeep,
    (hmisses "shore" hlost).2.2.2 hnone⟩

end Document

end Gamebook
