import Gamebook.Proofs.Document.Order
import Gamebook.Proofs.Play.Relevance

/-! # What comes of a combat

A combat is judged by those of its children that take part within its state block. The first of them
that has no place in a combat is to blame; if all of them have one, an event for each outcome and an
enemy must be there, in this order. `judged_iff_loadCombat` says that loading a combat comes to this
judgement and to no other.
-/

namespace Gamebook

namespace Document

variable (d : Document)

/-- The children of a card that take part within its state block, in order. -/
def present (r : d.Ref) (context : Context) : List d.Ref :=
  (d.children r).filter (d.takesPart (d.contextWithin r context))

/-- The lines of a combat for enemies that take part, in order. -/
def enemyLines (r : d.Ref) (context : Context) : List d.Ref :=
  (d.present r context).filter (d.tag · == .enemyLine)

/-- What has a place in a combat: enemies, events, and the texts of its state block. -/
def FitsCombat (r child : d.Ref) : Prop :=
  d.tag child = .enemyLine ∨ d.tag child = .event ∨ d.tag child = .text ∧ child ∈ d.stateBlock r

instance (r child : d.Ref) : Decidable (d.FitsCombat r child) :=
  inferInstanceAs (Decidable (_ ∨ _ ∨ _ ∧ _))

/-- An event for an outcome takes part. -/
def HasEventFor (r : d.Ref) (context : Context) (outcome : Outcome) : Prop :=
  ∃ event ∈ d.eventsFor r outcome.name, d.takesPart (d.contextWithin r context) event = true

/-- The judgement of a combat. -/
inductive Judged (table : Encounters) (r : d.Ref) (context : Context) :
    Except Fault CombatStep → Prop where
  | misplaced {before after : List d.Ref} {child : d.Ref}
      (hpresent : d.present r context = before ++ child :: after)
      (hbefore : ∀ earlier ∈ before, d.FitsCombat r earlier) (hchild : ¬ d.FitsCombat r child) :
      Judged table r context (.error (d.faultAt child (.combatChild (d.tag child))))
  | withoutWin (hfits : ∀ child ∈ d.present r context, d.FitsCombat r child)
      (hwin : ¬ d.HasEventFor r context .win) :
      Judged table r context (.error (d.faultAt r (.combatWithoutOutcome .win)))
  | withoutLoss (hfits : ∀ child ∈ d.present r context, d.FitsCombat r child)
      (hwin : d.HasEventFor r context .win) (hlose : ¬ d.HasEventFor r context .lose) :
      Judged table r context (.error (d.faultAt r (.combatWithoutOutcome .lose)))
  | withoutEnemies (hfits : ∀ child ∈ d.present r context, d.FitsCombat r child)
      (hwin : d.HasEventFor r context .win) (hlose : d.HasEventFor r context .lose)
      (hlines : d.enemyLines r context = []) :
      Judged table r context (.error (d.faultAt r .combatWithoutEnemies))
  | shown (hfits : ∀ child ∈ d.present r context, d.FitsCombat r child)
      (hwin : d.HasEventFor r context .win) (hlose : d.HasEventFor r context .lose)
      (hlines : d.enemyLines r context ≠ []) :
      Judged table r context (.ok ⟨(d.node r).attribute? "icon",
        (d.enemyLines r context).map fun line =>
          table.enemy (d.node line).text (d.contextWithin r context), context⟩)

variable {d}

@[simp]
theorem mem_present {r child : d.Ref} {context : Context} :
    child ∈ d.present r context ↔
      child ∈ d.children r ∧ d.takesPart (d.contextWithin r context) child = true := by
  simp [present]

@[simp]
theorem mem_enemyLines {r line : d.Ref} {context : Context} :
    line ∈ d.enemyLines r context ↔ line ∈ d.present r context ∧ d.tag line = .enemyLine := by
  simp [enemyLines]

/-! ## One child -/

end Document

namespace Roster

variable {roster next : Roster} {table : Encounters} {context : Context} {isState : Bool}
  {node : Node}

/-- A line for an enemy adds the enemy, and nothing else changes the enemies. -/
theorem enemies_of_add (h : roster.add table context isState node = .ok next) :
    next.enemies = roster.enemies ++
      if node.tag = .enemyLine then [table.enemy node.text context] else [] := by
  unfold add at h
  split at h
  case h_1 htag =>
    cases h
    rw [if_pos htag]
  case h_2 htag =>
    cases h
    rw [htag, if_neg (by decide), List.append_nil]
    unfold addEvent
    split
    · rfl
    · split <;> rfl
  case h_3 htag =>
    split at h
    · cases h
      rw [htag, if_neg (by decide), List.append_nil]
    · cases h
  case h_4 => cases h

theorem exists_add (h : node.tag = .enemyLine ∨ node.tag = .event ∨ node.tag = .text ∧ isState) :
    ∃ next, roster.add table context isState node = .ok next := by
  unfold add
  rcases h with htag | htag | ⟨htag, hstate⟩
  · simp [htag]
  · simp [htag]
  · simp [htag, hstate]

theorem add_eq_error
    (h : ¬ (node.tag = .enemyLine ∨ node.tag = .event ∨ node.tag = .text ∧ isState)) :
    roster.add table context isState node = .error (.combatChild node.tag) := by
  unfold add
  split
  case h_1 htag => exact absurd (Or.inl htag) h
  case h_2 htag => exact absurd (Or.inr (Or.inl htag)) h
  case h_3 htag =>
    rw [if_neg fun hstate => h (Or.inr (Or.inr ⟨htag, hstate⟩)), htag]
  case h_4 => rfl

theorem lack?_of_count_win (h : ¬ 0 < roster.count .win) :
    roster.lack? = some (.combatWithoutOutcome .win) :=
  if_pos (Nat.eq_zero_of_not_pos h)

theorem lack?_of_count_lose (hwin : 0 < roster.count .win) (h : ¬ 0 < roster.count .lose) :
    roster.lack? = some (.combatWithoutOutcome .lose) := by
  have hwins : roster.wins ≠ 0 := Nat.ne_of_gt hwin
  have hlosses : roster.losses = 0 := Nat.eq_zero_of_not_pos h
  rw [lack?, if_neg hwins, if_pos hlosses]

theorem lack?_of_counts (hwin : 0 < roster.count .win) (hlose : 0 < roster.count .lose) :
    roster.lack? = if roster.enemies = [] then some .combatWithoutEnemies else none := by
  have hwins : roster.wins ≠ 0 := Nat.ne_of_gt hwin
  have hlosses : roster.losses ≠ 0 := Nat.ne_of_gt hlose
  rw [lack?, if_neg hwins, if_neg hlosses]
  simp only [List.isEmpty_iff]

end Roster

namespace Document

variable {d : Document}

/-- Adds a child of a combat that takes part. -/
def enroll (d : Document) (table : Encounters) (r : d.Ref) (context : Context) (roster : Roster)
    (child : d.Ref) : Except Fault Roster :=
  (roster.add table (d.contextWithin r context) (child ∈ d.stateBlock r) (d.node child)).mapError
    (d.faultAt child)

theorem exists_enroll (table : Encounters) {r child : d.Ref} (context : Context) (roster : Roster)
    (h : d.FitsCombat r child) :
    ∃ next, d.enroll table r context roster child = .ok next ∧
      next.enemies = roster.enemies ++ if d.tag child = .enemyLine then
        [table.enemy (d.node child).text (d.contextWithin r context)] else [] := by
  have hplace : (d.node child).tag = .enemyLine ∨ (d.node child).tag = .event ∨
      (d.node child).tag = .text ∧ decide (child ∈ d.stateBlock r) = true := by
    rwa [decide_eq_true_iff]
  obtain ⟨next, hadd⟩ := Roster.exists_add hplace
  exact ⟨next, Except.mapError_eq_ok_iff.2 hadd, Roster.enemies_of_add hadd⟩

theorem enroll_eq_error {table : Encounters} {r child : d.Ref} {context : Context}
    {roster : Roster} (h : ¬ d.FitsCombat r child) :
    d.enroll table r context roster child =
      .error (d.faultAt child (.combatChild (d.tag child))) := by
  have hplace : ¬ ((d.node child).tag = .enemyLine ∨ (d.node child).tag = .event ∨
      (d.node child).tag = .text ∧ decide (child ∈ d.stateBlock r) = true) := by
    rwa [decide_eq_true_iff]
  rw [enroll, Roster.add_eq_error hplace]
  rfl

/-- A child of a node belongs to its state block exactly if it stands at one of the first places. -/
theorem lt_length_stateBlock_iff {r child : d.Ref} {place : Nat}
    (h : (child, place) ∈ (d.children r).zipIdx) :
    place < (d.stateBlock r).length ↔ child ∈ d.stateBlock r := by
  have hplace : (d.children r)[place]? = some child := List.mem_zipIdx_iff_getElem?.1 h
  have hprefix : d.stateBlock r <+: d.children r := List.takeWhile_prefix _
  have hstate := List.prefix_iff_getElem?.1 hprefix
  constructor
  · intro hlt
    have hsame := hstate place hlt
    rw [hplace, Option.some.injEq] at hsame
    rw [hsame]
    exact List.getElem_mem hlt
  · intro hmem
    obtain ⟨other, hlt, hother⟩ := List.mem_iff_getElem.1 hmem
    have hsame := hstate other hlt
    rw [hother] at hsame
    -- No child stands at two places.
    have hinside := (List.getElem?_eq_some_iff.1 hplace).1
    have heq : place = other :=
      (List.getElem?_inj hinside (nodup_children r)).1 (hplace.trans hsame.symm)
    exact heq ▸ hlt

/-! ## All children -/

/-- Enlisting the children of a combat is enrolling those that take part. -/
theorem foldlM_enlist_eq (table : Encounters) (r : d.Ref) (context : Context) (roster : Roster) :
    (d.children r).zipIdx.foldlM
        (d.enlist table (d.contextWithin r context) (d.stateBlock r).length) roster =
      (d.present r context).foldlM (d.enroll table r context) roster := by
  have hone : ∀ child ∈ (d.children r).zipIdx, ∀ roster,
      d.enlist table (d.contextWithin r context) (d.stateBlock r).length roster child =
        if d.takesPart (d.contextWithin r context) child.1 then
          d.enroll table r context roster child.1 else pure roster := by
    intro child hchild roster
    rw [enlist, enroll]
    simp only [lt_length_stateBlock_iff hchild]
    rfl
  calc (d.children r).zipIdx.foldlM _ roster
      = (d.children r).zipIdx.foldlM (fun roster child =>
          if d.takesPart (d.contextWithin r context) child.1 then
            d.enroll table r context roster child.1 else pure roster) roster :=
        foldlM_congr_of_mem roster hone
    _ = ((d.children r).zipIdx.map Prod.fst).foldlM (fun roster child =>
          if d.takesPart (d.contextWithin r context) child then
            d.enroll table r context roster child else pure roster) roster := by
        rw [List.foldlM_map]
    _ = (d.present r context).foldlM (d.enroll table r context) roster := by
        rw [List.zipIdx_map_fst, present, List.foldlM_filter]

/-- Children that have their places are all enrolled, and bring the enemies of their lines. -/
theorem foldlM_enroll_of_fits (table : Encounters) {r : d.Ref} (context : Context)
    {children : List d.Ref} (h : ∀ child ∈ children, d.FitsCombat r child) (roster : Roster) :
    ∃ last, children.foldlM (d.enroll table r context) roster = .ok last ∧
      last.enemies = roster.enemies ++ (children.filter (d.tag · == .enemyLine)).map fun line =>
        table.enemy (d.node line).text (d.contextWithin r context) := by
  induction children generalizing roster with
  | nil => exact ⟨roster, rfl, (List.append_nil _).symm⟩
  | cons child rest ih =>
      obtain ⟨hchild, hrest⟩ := List.forall_mem_cons.1 h
      obtain ⟨next, hnext, henemies⟩ := exists_enroll table context roster hchild
      obtain ⟨last, hlast, hothers⟩ := ih hrest next
      refine ⟨last, ?_, ?_⟩
      · rw [List.foldlM_cons, hnext]
        exact hlast
      · rw [hothers, henemies, List.append_assoc, List.filter_cons]
        by_cases htag : d.tag child = .enemyLine <;> simp [htag]

/-- The first child that has no place is to blame. -/
theorem foldlM_enroll_of_misplaced {table : Encounters} {r child : d.Ref} {context : Context}
    {before after : List d.Ref} (hbefore : ∀ earlier ∈ before, d.FitsCombat r earlier)
    (hchild : ¬ d.FitsCombat r child) (roster : Roster) :
    (before ++ child :: after).foldlM (d.enroll table r context) roster =
      .error (d.faultAt child (.combatChild (d.tag child))) := by
  apply Except.foldlM_eq_error_of_first
  · intro earlier hearlier roster
    obtain ⟨next, hnext, -⟩ := exists_enroll table context roster (hbefore earlier hearlier)
    exact ⟨next, hnext⟩
  · exact fun roster => enroll_eq_error hchild

/-- A combat whose children all have their places is judged by what it counts. -/
theorem answer_loadCombat_of_fits (table : Encounters) {r : d.Ref} {context : Context}
    (h : ∀ child ∈ d.present r context, d.FitsCombat r child) :
    ∃ last : Roster,
      (last.enemies = (d.enemyLines r context).map fun line =>
        table.enemy (d.node line).text (d.contextWithin r context)) ∧
      (∀ outcome, 0 < last.count outcome ↔ d.HasEventFor r context outcome) ∧
      (d.loadCombat table r context).answer =
        match last.lack? with
        | some cause => .error (d.faultAt r cause)
        | none => .ok ⟨(d.node r).attribute? "icon", last.enemies, context⟩ := by
  obtain ⟨last, hfold, henemies⟩ := foldlM_enroll_of_fits table context h Roster.empty
  have henlist := (foldlM_enlist_eq table r context Roster.empty).trans hfold
  refine ⟨last, henemies, fun outcome => count_pos_iff_of_foldlM_enlist henlist outcome, ?_⟩
  rw [answer_loadCombat, henlist]
  rfl

theorem answer_loadCombat_of_judged {table : Encounters} {r : d.Ref} {context : Context}
    {answer : Except Fault CombatStep} (h : d.Judged table r context answer) :
    (d.loadCombat table r context).answer = answer := by
  cases h with
  | misplaced hpresent hbefore hchild =>
      rw [answer_loadCombat, foldlM_enlist_eq, hpresent,
        foldlM_enroll_of_misplaced hbefore hchild]
      rfl
  | withoutWin hfits hwin =>
      obtain ⟨last, -, hcount, hanswer⟩ := answer_loadCombat_of_fits table hfits
      rw [← hcount] at hwin
      rw [hanswer, Roster.lack?_of_count_win hwin]
  | withoutLoss hfits hwin hlose =>
      obtain ⟨last, -, hcount, hanswer⟩ := answer_loadCombat_of_fits table hfits
      rw [← hcount] at hwin hlose
      rw [hanswer, Roster.lack?_of_count_lose hwin hlose]
  | withoutEnemies hfits hwin hlose hlines =>
      obtain ⟨last, henemies, hcount, hanswer⟩ := answer_loadCombat_of_fits table hfits
      rw [← hcount] at hwin hlose
      rw [hlines, List.map_nil] at henemies
      rw [hanswer, Roster.lack?_of_counts hwin hlose, if_pos henemies]
  | shown hfits hwin hlose hlines =>
      obtain ⟨last, henemies, hcount, hanswer⟩ := answer_loadCombat_of_fits table hfits
      rw [← hcount] at hwin hlose
      have hsome : last.enemies ≠ [] := by
        rwa [henemies, Ne, List.map_eq_nil_iff]
      rw [hanswer, Roster.lack?_of_counts hwin hlose, if_neg hsome, ← henemies]

theorem exists_judged (table : Encounters) (r : d.Ref) (context : Context) :
    ∃ answer, d.Judged table r context answer := by
  rcases List.forall_or_exists_first (fun child => em (d.FitsCombat r child)) (d.present r context)
    with hfits | ⟨before, child, after, hpresent, hbefore, hchild⟩
  · by_cases hwin : d.HasEventFor r context .win
    · by_cases hlose : d.HasEventFor r context .lose
      · by_cases hlines : d.enemyLines r context = []
        · exact ⟨_, .withoutEnemies hfits hwin hlose hlines⟩
        · exact ⟨_, .shown hfits hwin hlose hlines⟩
      · exact ⟨_, .withoutLoss hfits hwin hlose⟩
    · exact ⟨_, .withoutWin hfits hwin⟩
  · exact ⟨_, .misplaced hpresent hbefore hchild⟩

/-- Loading a combat comes to its judgement: it fails for the first child that takes part and has no
place in a combat, and if there is none for want of an event for a win, of one for a loss, or of an
enemy, in this order. It is shown exactly if nothing of this is so, with an enemy for each line that
takes part, in order, and with the context that it was entered with. -/
theorem judged_iff_loadCombat (d : Document) (table : Encounters) (r : d.Ref) (context : Context) :
    (∀ answer, (d.loadCombat table r context).answer = answer ↔
      d.Judged table r context answer) ∧
    ((∃ step, (d.loadCombat table r context).answer = .ok step) ↔
      (∀ child ∈ d.children r, d.takesPart (d.contextWithin r context) child = true →
        d.tag child = .enemyLine ∨ d.tag child = .event ∨
          d.tag child = .text ∧ child ∈ d.stateBlock r) ∧
      (∃ line ∈ d.children r, d.takesPart (d.contextWithin r context) line = true ∧
        d.tag line = .enemyLine) ∧
      ∀ outcome : Outcome, ∃ event ∈ d.children r,
        d.takesPart (d.contextWithin r context) event = true ∧ d.tag event = .event ∧
          (d.node event).outcome? = some outcome.name) := by
  have hjudged (answer : Except Fault CombatStep) :
      (d.loadCombat table r context).answer = answer ↔ d.Judged table r context answer := by
    refine ⟨?_, answer_loadCombat_of_judged⟩
    rintro rfl
    obtain ⟨answer, hanswer⟩ := exists_judged table r context
    rwa [answer_loadCombat_of_judged hanswer]
  refine ⟨hjudged, ?_⟩
  constructor
  · rintro ⟨step, hstep⟩
    cases (hjudged _).1 hstep with
    | shown hfits hwin hlose hlines =>
        refine ⟨fun child hchild hpart => hfits child (mem_present.2 ⟨hchild, hpart⟩), ?_, ?_⟩
        · obtain ⟨line, hline⟩ := List.exists_mem_of_ne_nil _ hlines
          obtain ⟨hpresent, htag⟩ := mem_enemyLines.1 hline
          obtain ⟨hchild, hpart⟩ := mem_present.1 hpresent
          exact ⟨line, hchild, hpart, htag⟩
        · intro outcome
          have hevent : d.HasEventFor r context outcome := by
            cases outcome with
            | win => exact hwin
            | lose => exact hlose
          obtain ⟨event, hevent, hpart⟩ := hevent
          obtain ⟨hchild, htag, houtcome⟩ := mem_eventsFor.1 hevent
          exact ⟨event, hchild, hpart, htag, houtcome⟩
  · rintro ⟨hfits, ⟨line, hline, hpart, htag⟩, hevents⟩
    have hhas (outcome : Outcome) : d.HasEventFor r context outcome := by
      obtain ⟨event, hchild, hpart, htag, houtcome⟩ := hevents outcome
      exact ⟨event, mem_eventsFor.2 ⟨hchild, htag, houtcome⟩, hpart⟩
    have hlines : d.enemyLines r context ≠ [] :=
      List.ne_nil_of_mem (mem_enemyLines.2 ⟨mem_present.2 ⟨hline, hpart⟩, htag⟩)
    refine ⟨_, (hjudged _).2 (.shown ?_ (hhas .win) (hhas .lose) hlines)⟩
    intro child hchild
    obtain ⟨hmem, hpart⟩ := mem_present.1 hchild
    exact hfits child hmem hpart

/-- A raid in which a sign stands in the way and the way to lose is closed by the state block. -/
def raid : Document :=
  .ofOutline (.branch (.bare .quest) [.branch (.bare .combat) [
    .branch { Node.bare .text with text := "{{brave = true}}" } [],
    .branch { Node.bare .enemyLine with text := "Wolf" } [],
    .branch { Node.bare .event with attributes := .ofList [("on", "win")] } [],
    .branch { Node.bare .event with
      attributes := .ofList [("on", "lose"), ("condition", "not brave")] } [],
    .branch { Node.bare .text with
      attributes := .ofList [("condition", "sign == 'up'")]
      text := "{{brave = false}}" } []]])

/-- The card of the raid. -/
def raidCard : raid.Ref := ⟨1, by decide +kernel⟩

/-- Whoever is brave cannot lose the raid, which is therefore none; and where the sign is up it has
no place there, which counts first. -/
theorem judged_iff_loadCombat_raid :
    raid.Judged .bundled raidCard .empty
      (.error (raid.faultAt raidCard (.combatWithoutOutcome .lose))) ∧
    raid.Judged .bundled raidCard (.ofList [("sign", .string "up")])
      (.error (raid.faultAt ⟨6, by decide +kernel⟩ (.combatChild .text))) := by
  obtain ⟨hcalm, -⟩ := judged_iff_loadCombat raid .bundled raidCard .empty
  obtain ⟨hsigned, -⟩ :=
    judged_iff_loadCombat raid .bundled raidCard (.ofList [("sign", .string "up")])
  rw [← hcalm, ← hsigned]
  constructor <;> decide +kernel

end Document

end Gamebook
