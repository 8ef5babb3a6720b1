import Gamebook.Proofs.Document.Order
import Gamebook.Proofs.Play.Ways

/-! # What the body of a branch decides

A choice or an event whose body is a trigger alone does what the trigger does. Otherwise the first
child that decides says where it leads: a card that takes part is entered, and a branch within the
branch is a fault. `resolved_iff_resolveBranch` says so, and that a branch within the branch is
passed over exactly if a card that takes part stands before all of them.
-/

namespace Gamebook

theorem Tag.isBranch_eq_false_of_isCard {tag : Tag} (h : tag.isCard = true) :
    tag.isBranch = false := by
  cases tag <;> simp_all [isCard, isBranch]

namespace Document

variable (d : Document)

/-- The body of a node is a trigger and nothing else. -/
def HoldsTriggerAlone (r : d.Ref) : Prop :=
  ∃ only, d.children r = [only] ∧ d.tag only = .trigger

/-- Where a branch leads, or why it leads nowhere. -/
inductive Resolved (r : d.Ref) (context : Context) : Except Fault d.Ref → Prop where
  | followed {only : d.Ref} (hchildren : d.children r = [only]) (htag : d.tag only = .trigger) :
      Resolved r context ((d.loadTrigger only).map Trigger.target)
  | nested {before after : List d.Ref} {child : d.Ref} (hbody : ¬ d.HoldsTriggerAlone r)
      (hchildren : d.children r = before ++ child :: after)
      (hbefore : ∀ earlier ∈ before, d.decides context earlier = false)
      (hbranch : (d.tag child).isBranch = true) :
      Resolved r context (.error (d.faultAt child (.branchInBranch (d.tag r))))
  | entered {before after : List d.Ref} {card : d.Ref} (hbody : ¬ d.HoldsTriggerAlone r)
      (hchildren : d.children r = before ++ card :: after)
      (hbefore : ∀ earlier ∈ before, d.decides context earlier = false)
      (hcard : (d.tag card).isCard = true) (hpart : d.takesPart context card = true) :
      Resolved r context (.ok card)
  | stuck (hbody : ¬ d.HoldsTriggerAlone r)
      (hnone : ∀ child ∈ d.children r, d.decides context child = false) :
      Resolved r context (.error (d.faultAt r .branchWithoutCard))

variable {d}

theorem decides_of_isBranch {context : Context} {child : d.Ref}
    (h : (d.tag child).isBranch = true) : d.decides context child = true := by
  simp [decides, h]

theorem decides_of_isCard {context : Context} {card : d.Ref} (hcard : (d.tag card).isCard = true)
    (hpart : d.takesPart context card = true) : d.decides context card = true := by
  simp [decides, hcard, hpart]

theorem answer_resolveBranch_of_alone {r only : d.Ref} (hchildren : d.children r = [only])
    (htag : d.tag only = .trigger) (context : Context) :
    (d.resolveBranch r context).answer = (d.loadTrigger only).map Trigger.target := by
  simp only [resolveBranch, hchildren, if_pos htag, Play.answer_bind, Play.answer_ofExcept]
  cases d.loadTrigger only <;> rfl

theorem answer_resolveBranch_of_not_alone {r : d.Ref} (h : ¬ d.HoldsTriggerAlone r)
    (context : Context) :
    (d.resolveBranch r context).answer =
      match (d.children r).find? (d.decides context) with
      | none => .error (d.faultAt r .branchWithoutCard)
      | some child =>
        if (d.tag child).isBranch then .error (d.faultAt child (.branchInBranch (d.tag r)))
        else .ok child := by
  have hsearch := (answer_resolveBranch r context).resolve_left
    fun ⟨only, hchildren, htag, _⟩ => h ⟨only, hchildren, htag⟩
  rw [hsearch, answer_firstCard]
  cases (d.children r).find? (d.decides context) with
  | none => rfl
  | some child =>
      dsimp only
      split <;> rfl

theorem find?_decides_of_append {r child : d.Ref} {context : Context} {before after : List d.Ref}
    (hchildren : d.children r = before ++ child :: after)
    (hbefore : ∀ earlier ∈ before, d.decides context earlier = false)
    (hchild : d.decides context child = true) :
    (d.children r).find? (d.decides context) = some child := by
  refine List.find?_eq_some_iff_append.2 ⟨hchild, before, after, hchildren, ?_⟩
  simpa using hbefore

theorem answer_resolveBranch_of_resolved {r : d.Ref} {context : Context}
    {answer : Except Fault d.Ref} (h : d.Resolved r context answer) :
    (d.resolveBranch r context).answer = answer := by
  cases h with
  | followed hchildren htag => exact answer_resolveBranch_of_alone hchildren htag context
  | nested hbody hchildren hbefore hbranch =>
      rw [answer_resolveBranch_of_not_alone hbody,
        find?_decides_of_append hchildren hbefore (decides_of_isBranch hbranch)]
      exact if_pos hbranch
  | entered hbody hchildren hbefore hcard hpart =>
      rw [answer_resolveBranch_of_not_alone hbody,
        find?_decides_of_append hchildren hbefore (decides_of_isCard hcard hpart)]
      simp [Tag.isBranch_eq_false_of_isCard hcard]
  | stuck hbody hnone =>
      have hfind : (d.children r).find? (d.decides context) = none := by
        simpa using hnone
      rw [answer_resolveBranch_of_not_alone hbody, hfind]

theorem exists_resolved (r : d.Ref) (context : Context) :
    ∃ answer, d.Resolved r context answer := by
  by_cases hbody : d.HoldsTriggerAlone r
  · obtain ⟨only, hchildren, htag⟩ := hbody
    exact ⟨_, .followed hchildren htag⟩
  · cases hfind : (d.children r).find? (d.decides context) with
    | none => exact ⟨_, .stuck hbody (by simpa using hfind)⟩
    | some child =>
        obtain ⟨hdecides, before, after, hchildren, hbefore⟩ :=
          List.find?_eq_some_iff_append.1 hfind
        have hbefore : ∀ earlier ∈ before, d.decides context earlier = false := by
          simpa using hbefore
        cases hbranch : (d.tag child).isBranch with
        | true => exact ⟨_, .nested hbody hchildren hbefore hbranch⟩
        | false =>
            have hcard : (d.tag child).isCard = true ∧ d.takesPart context child = true := by
              simpa [decides, hbranch] using hdecides
            exact ⟨_, .entered hbody hchildren hbefore hcard.1 hcard.2⟩

theorem resolved_iff {r : d.Ref} {context : Context} {answer : Except Fault d.Ref} :
    (d.resolveBranch r context).answer = answer ↔ d.Resolved r context answer := by
  refine ⟨?_, answer_resolveBranch_of_resolved⟩
  rintro rfl
  obtain ⟨answer, hanswer⟩ := exists_resolved r context
  rwa [answer_resolveBranch_of_resolved hanswer]

/-- A body with a branch in it is refused for that exactly if every card in it that takes part has a
branch before it. -/
theorem code_resolveBranch_iff {r inner : d.Ref} {context : Context} (hinner : inner ∈ d.children r)
    (hbranch : (d.tag inner).isBranch = true) :
    (∃ fault, (d.resolveBranch r context).answer = .error fault ∧
        fault.code = "CONTAINER_NESTED_BRANCH") ↔
      ∀ card ∈ d.children r, (d.tag card).isCard = true → d.takesPart context card = true →
        ∃ branch ∈ d.children r, (d.tag branch).isBranch = true ∧ branch < card := by
  obtain ⟨answer, hanswer⟩ := exists_resolved r context
  rw [answer_resolveBranch_of_resolved hanswer]
  have hsorted := pairwise_lt_children r
  cases hanswer with
  | followed hchildren htag =>
      rw [hchildren, List.mem_singleton] at hinner
      simp [hinner, htag, Tag.isBranch] at hbranch
  | stuck _ hnone =>
      cases (decides_of_isBranch hbranch).symm.trans (hnone inner hinner)
  | @nested before after child _ hchildren hbefore hchild =>
      refine iff_of_true ⟨_, rfl, rfl⟩ ?_
      intro card hmem hcard hpart
      refine ⟨child, by simp [hchildren], hchild, ?_⟩
      rw [hchildren] at hmem hsorted
      rcases List.mem_append.1 hmem with hmem | hmem
      · cases (decides_of_isCard hcard hpart).symm.trans (hbefore card hmem)
      · rcases List.mem_cons.1 hmem with rfl | hmem
        · cases hchild.symm.trans (Tag.isBranch_eq_false_of_isCard hcard)
        · exact List.rel_of_pairwise_cons (List.pairwise_append.1 hsorted).2.1 hmem
  | @entered before after card _ hchildren hbefore hcard hpart =>
      refine iff_of_false (by simp) ?_
      intro hall
      obtain ⟨branch, hmem, hnested, hlt⟩ := hall card (by simp [hchildren]) hcard hpart
      rw [hchildren] at hmem hsorted
      rcases List.mem_append.1 hmem with hmem | hmem
      · cases (decides_of_isBranch hnested).symm.trans (hbefore branch hmem)
      · rcases List.mem_cons.1 hmem with rfl | hmem
        · exact Nat.lt_irrefl _ hlt
        · exact Nat.lt_asymm hlt
            (List.rel_of_pairwise_cons (List.pairwise_append.1 hsorted).2.1 hmem)

/-- A branch leads where its body resolves to, for the choice with a number as for the event for an
outcome: where a trigger that is the whole body goes, or else into the first card that takes part,
unless a branch comes before it; and it fails if there is neither. So a body with a branch in it is
refused for that exactly if every card in it that takes part has a branch before it. -/
theorem resolved_iff_resolveBranch (d : Document) (r : d.Ref) (context : Context) :
    (∀ answer, (d.resolveBranch r context).answer = answer ↔ d.Resolved r context answer) ∧
    ((∃ inner ∈ d.children r, (d.tag inner).isBranch = true) →
      ((∃ fault, (d.resolveBranch r context).answer = .error fault ∧
          fault.code = "CONTAINER_NESTED_BRANCH") ↔
        ∀ card ∈ d.children r, (d.tag card).isCard = true → d.takesPart context card = true →
          ∃ branch ∈ d.children r, (d.tag branch).isBranch = true ∧ branch < card)) ∧
    (∀ (parent : d.Ref) (index : Nat), (d.choicesIn parent context)[index]? = some r →
      (d.takeChoice parent index context).answer = (d.resolveBranch r context).answer.map some) ∧
    ∀ (parent : d.Ref) (name : String),
      (d.eventsFor parent name).find? (d.takesPart context) = some r →
        (d.takeEvent parent name context).answer = (d.resolveBranch r context).answer := by
  refine ⟨fun answer => resolved_iff, ?_, ?_, ?_⟩
  · rintro ⟨inner, hinner, hbranch⟩
    exact code_resolveBranch_iff hinner hbranch
  · intro parent index hchoice
    rw [answer_takeChoice, hchoice]
  · intro parent name hevent
    rw [answer_takeEvent, answer_findEvent, hevent]
    rfl

/-- A card with two choices whose bodies differ in the order of a piece of story and of a choice
that has no place there. -/
def fork : Document :=
  .ofOutline (.branch (.bare .quest) [.branch (.bare .roleplay) [
    .branch (.bare .choice) [.branch (.bare .roleplay) [], .branch (.bare .choice) []],
    .branch (.bare .choice) [.branch (.bare .choice) [], .branch (.bare .roleplay) []]]])

/-- The card of the fork. -/
def forkCard : fork.Ref := ⟨1, by decide +kernel⟩

/-- The first choice of the fork leads into its piece of story although a choice follows there, and
the second is refused. -/
theorem resolved_iff_resolveBranch_fork :
    (fork.takeChoice forkCard 0 .empty).answer = .ok (some ⟨3, by decide +kernel⟩) ∧
    ∃ fault, (fork.takeChoice forkCard 1 .empty).answer = .error fault ∧
      fault.code = "CONTAINER_NESTED_BRANCH" := by
  constructor
  · obtain ⟨hresolved, -, htake, -⟩ :=
      resolved_iff_resolveBranch fork ⟨2, by decide +kernel⟩ .empty
    have hchildren : fork.children ⟨2, by decide +kernel⟩ =
        [] ++ ⟨3, by decide +kernel⟩ :: [⟨4, by decide +kernel⟩] := by
      decide +kernel
    have hbody : ¬ fork.HoldsTriggerAlone ⟨2, by decide +kernel⟩ := by
      rintro ⟨only, honly, -⟩
      cases hchildren.symm.trans honly
    rw [htake forkCard 0 (by decide +kernel), (hresolved _).2 (.entered hbody hchildren (by simp)
      (by decide +kernel) (by decide +kernel))]
    rfl
  · obtain ⟨-, hrefused, htake, -⟩ :=
      resolved_iff_resolveBranch fork ⟨5, by decide +kernel⟩ .empty
    obtain ⟨fault, hfault, hcode⟩ := (hrefused (by decide +kernel)).2 (by decide +kernel)
    refine ⟨fault, ?_, hcode⟩
    rw [htake forkCard 1 (by decide +kernel), hfault]
    rfl

end Document

end Gamebook
