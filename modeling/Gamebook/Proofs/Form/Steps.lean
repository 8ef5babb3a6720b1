import Gamebook.Form.Snapshot
import Gamebook.Proofs.Form.Contexts

/-! # Steps that are written and read

The forms of steps, and of what belongs to them, lose nothing. `reread_forms` says what comes back
when each is read from the text that it is written as: the same, as far as the numbers in contexts
are found again from their digits and places fit into sixty-four bits.
-/

namespace Gamebook

open Json (SpelledBy reread)

/-- The tier of an enemy is read back. -/
theorem Json.asTier_ofNat (tier : UInt32) : (Json.ofNat tier.toNat).asTier = .ok tier := by
  have hread : (Json.ofNat tier.toNat).asNatBelow tierBound = .ok tier.toNat :=
    asNatBelow_ofNat_eq_ok_iff.2 ⟨tier.toNat_lt, rfl⟩
  rw [asTier, hread, Except.map, UInt32.ofNat_toNat]

namespace Encounter

theorem ofJson_toJson (encounter : Encounter) : ofJson encounter.toJson = .ok encounter := by
  have hread : ofJson encounter.toJson = (Json.ofNat encounter.tier.toNat).asTier.map
      fun tier => { encounter with tier := tier } := by
    obtain ⟨name, tier, kind⟩ := encounter
    cases kind <;> rfl
  rw [hread, Json.asTier_ofNat]
  rfl

theorem spelledBy {p : String → Prop} (encounter : Encounter)
    (h : p (Number.wholeText encounter.tier.toNat)) : SpelledBy p 1 encounter.toJson :=
  .of_pairs ⟨.string _, .number h, .ofOption_string _⟩

end Encounter

namespace Enemy

theorem ofJson_toJson (enemy : Enemy) : ofJson enemy.toJson = .ok enemy := by
  have hread : ofJson enemy.toJson = (Json.ofNat enemy.tier.toNat).asTier.map
      fun tier => { enemy with tier := tier } := by
    obtain ⟨name, tier, kind⟩ := enemy
    cases kind <;> rfl
  rw [hread, Json.asTier_ofNat]
  rfl

theorem spelledBy {p : String → Prop} {depth : Nat} (enemy : Enemy)
    (h : p (Number.wholeText enemy.tier.toNat)) : SpelledBy p (depth + 1) enemy.toJson := by
  refine .object (List.forall_mem_append.2 ⟨?_, .optionalField fun kind => .string kind⟩)
  exact List.forall_iff_forall_mem.1 ⟨.string _, .number h⟩

end Enemy

namespace Choice

theorem ofJson_toJson_eq_ok_iff {choice read : Choice} :
    ofJson choice.toJson = .ok read ↔ choice.index < Number.wordBound ∧ read = choice := by
  change (Json.ofNat choice.index).asCount.map (Choice.mk choice.text) = _ ↔ _
  simp only [Except.map_eq_ok_iff, Json.asCount_ofNat_eq_ok_iff]
  constructor
  · rintro ⟨index, ⟨hlt, rfl⟩, rfl⟩
    exact ⟨hlt, rfl⟩
  · rintro ⟨hlt, rfl⟩
    exact ⟨_, ⟨hlt, rfl⟩, rfl⟩

/-- Choices are read back if all of their numbers fit, and otherwise nothing is read. -/
theorem asListOf_ofJson_eq_ok_iff {choices read : List Choice} :
    Json.asListOf ofJson (.array (choices.map toJson)) = .ok read ↔
      (∀ choice ∈ choices, choice.index < Number.wordBound) ∧ read = choices := by
  constructor
  · intro h
    have heq : read = choices :=
      Except.eq_of_mapM_map (fun _ _ hread => (ofJson_toJson_eq_ok_iff.1 hread).2) h
    subst heq
    have hall := Json.asListOf_map_eq_ok_iff.1 h
    exact ⟨fun choice hchoice => (ofJson_toJson_eq_ok_iff.1 (hall choice hchoice)).1, rfl⟩
  · rintro ⟨hlt, rfl⟩
    exact Json.asListOf_map_eq_ok_iff.2 fun choice hchoice =>
      ofJson_toJson_eq_ok_iff.2 ⟨hlt choice hchoice, rfl⟩

theorem spelledBy {p : String → Prop} {depth : Nat} (choice : Choice)
    (h : p (Number.wholeText choice.index)) : SpelledBy p (depth + 1) choice.toJson :=
  .of_pairs ⟨.string _, .number h⟩

end Choice

namespace ContentItem

theorem ofJson_toJson (empty : Json → Bool) (item : ContentItem) :
    ofJson empty item.toJson = .ok item := by
  obtain ⟨kind, text⟩ := item
  cases kind <;> rfl

theorem spelledBy {p : String → Prop} {depth : Nat} (item : ContentItem) :
    SpelledBy p (depth + 1) item.toJson :=
  .of_pairs ⟨.string _, .string _⟩

end ContentItem

namespace EventParameters

theorem asHeal_ofInt (heal : Int64) : asHeal (.ofInt heal.toInt) = .ok heal := by
  have hle := heal.le_toInt
  have hlt := heal.toInt_lt
  have hfits : Number.int64? heal.toInt = some heal := by
    rw [Number.int64?, if_pos ⟨hle, hlt⟩, Int64.ofInt_toInt]
  unfold asHeal
  rw [Json.asInt_ofInt, Except.ok_bind, hfits]

theorem ofJson_toJson (parameters : EventParameters) :
    ofJson parameters.toJson = .ok parameters := by
  have hread : ofJson parameters.toJson =
      (Record.orNull asHeal (.ofOption (fun heal => .ofInt heal.toInt) parameters.heal)).map
        fun heal => { parameters with heal := heal } := by
    obtain ⟨xp, loot, heal⟩ := parameters
    cases xp <;> cases loot <;> cases heal <;> rfl
  have hheal : Record.orNull asHeal (.ofOption (fun heal => .ofInt heal.toInt) parameters.heal) =
      .ok parameters.heal := by
    cases parameters.heal with
    | none => rfl
    | some heal =>
        change (asHeal (.ofInt heal.toInt)).map some = .ok (some heal)
        rw [asHeal_ofInt]
        rfl
  rw [hread, hheal]
  rfl

theorem spelledBy (parameters : EventParameters) :
    SpelledBy Json.IsNumber 1 parameters.toJson := by
  have hfields : ∀ field ∈ Json.optionalField "xp" .boolean parameters.xp
      ++ Json.optionalField "loot" .boolean parameters.loot
      ++ Json.optionalField "heal" (fun heal => .ofInt heal.toInt) parameters.heal,
      SpelledBy Json.IsNumber 0 field.2 := by
    simp only [List.forall_mem_append]
    refine ⟨⟨.optionalField ?_, .optionalField ?_⟩, .optionalField ?_⟩
    · exact fun b => .boolean b
    · exact fun b => .boolean b
    · exact fun heal => .number (Json.isNumber_signedText heal.toInt)
  exact .object hfields

theorem reread_eq_ok (parameters : EventParameters) :
    reread toJson ofJson parameters = .ok parameters := by
  rw [Json.reread_of_spelledBy parameters.spelledBy, parameters.ofJson_toJson]

end EventParameters

namespace Position

/-- A place that fits into sixty-four bits. -/
structure Fits (position : Position) : Prop where
  line_lt : position.line < Number.wordBound
  column_lt : position.column < Number.wordBound

theorem ofJson_toJson_eq_ok_iff {position read : Position} :
    ofJson position.toJson = .ok read ↔ position.Fits ∧ read = position := by
  change ((Json.ofNat position.line).asCount.bind fun line =>
    (Json.ofNat position.column).asCount.map fun column => Position.mk line column) = _ ↔ _
  simp only [Except.bind_eq_ok_iff, Except.map_eq_ok_iff, Json.asCount_ofNat_eq_ok_iff]
  constructor
  · rintro ⟨line, ⟨hline, rfl⟩, column, ⟨hcolumn, rfl⟩, rfl⟩
    exact ⟨⟨hline, hcolumn⟩, rfl⟩
  · rintro ⟨⟨hline, hcolumn⟩, rfl⟩
    exact ⟨_, ⟨hline, rfl⟩, _, ⟨hcolumn, rfl⟩, rfl⟩

theorem spelledBy {depth : Nat} (position : Position) :
    SpelledBy Json.IsNumber (depth + 1) position.toJson :=
  .of_pairs ⟨.number (Json.isNumber_wholeText _), .number (Json.isNumber_wholeText _)⟩

end Position

namespace Span

theorem ofJson_toJson_eq_ok_iff {span : Span} :
    ofJson span.toJson = .ok span ↔ span.start.Fits ∧ span.stop.Fits := by
  change ((Position.ofJson span.start.toJson).bind fun start =>
    (Position.ofJson span.stop.toJson).map fun stop => Span.mk start stop) = _ ↔ _
  simp only [Except.bind_eq_ok_iff, Except.map_eq_ok_iff, Position.ofJson_toJson_eq_ok_iff]
  constructor
  · rintro ⟨start, ⟨hstart, -⟩, stop, ⟨hstop, -⟩, -⟩
    exact ⟨hstart, hstop⟩
  · rintro ⟨hstart, hstop⟩
    exact ⟨_, ⟨hstart, rfl⟩, _, ⟨hstop, rfl⟩, rfl⟩

theorem spelledBy (span : Span) : SpelledBy Json.IsNumber 2 span.toJson :=
  .of_pairs ⟨span.start.spelledBy, span.stop.spelledBy⟩

end Span

namespace Tag

theorem ofJson_toJson (tag : Tag) : ofJson tag.toJson = .ok tag := by
  cases tag <;> rfl

theorem spelledBy (tag : Tag) : SpelledBy Json.IsNumber 0 tag.toJson :=
  .string _

end Tag

namespace CombatStep

/-- A combat is read back up to its context. -/
theorem ofJson_toFields (step : CombatStep) :
    ofJson (.object step.toFields) = (Context.ofJson step.context.toJson).map fun context =>
      { step with context := context } := by
  have hread : ofJson (.object step.toFields) =
      (Json.asListOf Enemy.ofJson (.array (step.enemies.map Enemy.toJson))).bind fun enemies =>
        (Context.ofJson step.context.toJson).map fun context => ⟨step.icon, enemies, context⟩ := by
    obtain ⟨icon, enemies, context⟩ := step
    cases icon <;> rfl
  rw [hread, Json.asListOf_map_eq_ok_iff.2 fun enemy _ => enemy.ofJson_toJson]
  rfl

end CombatStep

namespace RoleplayStep

/-- A piece of story is read back up to its context if the numbers of its choices fit. -/
theorem ofJson_toFields_eq_ok_iff {step read : RoleplayStep} :
    ofJson (.object step.toFields) = .ok read ↔
      (∀ choice ∈ step.choices, choice.index < Number.wordBound) ∧
        ∃ context, Context.ofJson step.context.toJson = .ok context ∧
          read = { step with context := context } := by
  have hcontent : Json.asListOf (ContentItem.ofJson Json.isEmptyPlain)
      (.array (step.content.map ContentItem.toJson)) = .ok step.content :=
    Json.asListOf_map_eq_ok_iff.2 fun item _ => item.ofJson_toJson _
  have hread : ofJson (.object step.toFields) =
      (Json.asListOf (ContentItem.ofJson Json.isEmptyPlain)
        (.array (step.content.map ContentItem.toJson))).bind fun content =>
      (Json.asListOf Choice.ofJson (.array (step.choices.map Choice.toJson))).bind fun choices =>
        (Context.ofJson step.context.toJson).map fun context =>
          ⟨step.title, step.icon, content, choices, context⟩ := by
    obtain ⟨title, icon, content, choices, context⟩ := step
    cases title <;> cases icon <;> rfl
  rw [hread, hcontent]
  simp only [Except.bind_eq_ok_iff, Except.map_eq_ok_iff, Except.ok.injEq, exists_eq_left',
    Choice.asListOf_ofJson_eq_ok_iff]
  constructor
  · rintro ⟨choices, ⟨hlt, rfl⟩, context, hcontext, rfl⟩
    exact ⟨hlt, context, hcontext, rfl⟩
  · rintro ⟨hlt, context, hcontext, rfl⟩
    exact ⟨_, ⟨hlt, rfl⟩, context, hcontext, rfl⟩

end RoleplayStep

namespace Step

/-- The numbers of cards and choices in a step. -/
def places : Step → List Nat
  | .combat _ => []
  | .roleplay step => step.choices.map (·.index)
  | .trigger target _ => [target]

/-- The context of a step. A trigger has none. -/
def context? : Step → Option Context
  | .combat step => some step.context
  | .roleplay step => some step.context
  | .trigger .. => none

/-- The step with another context, if it has one. -/
def inContext (context : Context) : Step → Step
  | .combat step => .combat { step with context := context }
  | .roleplay step => .roleplay { step with context := context }
  | .trigger target kind => .trigger target kind

/-- A step whose numbers can all be read back. -/
structure ReadsBack (step : Step) : Prop where
  places_lt : ∀ n ∈ step.places, n < Number.wordBound
  context : ∀ context ∈ step.context?, context.ReadsBack

theorem inContext_self {step : Step} {context : Context}
    (h : ∀ own ∈ step.context?, own = context) : step.inContext context = step := by
  cases step with
  | combat step =>
      rw [inContext, ← h step.context rfl]
  | roleplay step =>
      rw [inContext, ← h step.context rfl]
  | trigger target kind => rfl

theorem context?_inContext (context : Context) (step : Step) :
    (step.inContext context).context? = step.context?.map fun _ => context := by
  cases step <;> rfl

theorem inContext_inContext (a b : Context) (step : Step) :
    (step.inContext a).inContext b = step.inContext b := by
  cases step <;> rfl

/-- A step is spelled as its numbers are. -/
theorem spelledBy {p : String → Prop} {step : Step}
    (htier : ∀ tier : UInt32, p (Number.wholeText tier.toNat))
    (hplaces : ∀ n ∈ step.places, p (Number.wholeText n))
    (hcontext : ∀ context ∈ step.context?, ∀ name x, context.get? name = some (.number x) →
      Number.IsFinite x → p (Number.Layout.signed.render x)) : SpelledBy p 3 step.toJson := by
  cases step with
  | combat step =>
      refine .of_pairs ⟨.string _, .ofOption_string _, .of_map fun enemy _ => ?_, ?_⟩
      · exact enemy.spelledBy (htier _)
      · exact Context.spelledBy (hcontext step.context rfl)
  | roleplay step =>
      refine .of_pairs ⟨.string _, .ofOption_string _, .ofOption_string _,
        .of_map fun item _ => item.spelledBy, .of_map fun choice hchoice => ?_, ?_⟩
      · exact choice.spelledBy (hplaces _ (List.mem_map_of_mem hchoice))
      · exact Context.spelledBy (hcontext step.context rfl)
  | trigger target kind =>
      exact .of_pairs ⟨.string _, .number (hplaces target List.mem_cons_self), .string _⟩

theorem spelledBy_numberLike (step : Step) : SpelledBy Json.NumberLike 3 step.toJson :=
  spelledBy (fun _ => Json.numberLike_wholeText _) (fun _ _ => Json.numberLike_wholeText _)
    fun _ _ _ _ _ hfinite => hfinite.numberLike

theorem ReadsBack.spelledBy {step : Step} (h : step.ReadsBack) :
    SpelledBy Json.IsDouble 3 step.toJson :=
  Step.spelledBy (fun tier => Json.isDouble_wholeText (Nat.lt_trans tier.toNat_lt (by decide)))
    (fun n hn => Json.isDouble_wholeText (h.places_lt n hn))
    fun context hcontext _ _ hget _ => (h.context context hcontext).isDouble hget

/-- A trigger is read back if its target fits. -/
theorem triggerOfJson_eq_ok_iff {target : Nat} {kind : TriggerKind} {read : Step} :
    triggerOfJson (.object [("target", .ofNat target), ("kind", .string kind.name)]) = .ok read ↔
      target < Number.wordBound ∧ read = .trigger target kind := by
  have hread : triggerOfJson (.object [("target", .ofNat target), ("kind", .string kind.name)]) =
      (Json.ofNat target).asCount.map fun target => .trigger target kind := by
    cases kind <;> rfl
  rw [hread]
  simp only [Except.map_eq_ok_iff, Json.asCount_ofNat_eq_ok_iff]
  constructor
  · rintro ⟨_, ⟨hlt, rfl⟩, rfl⟩
    exact ⟨hlt, rfl⟩
  · rintro ⟨hlt, rfl⟩
    exact ⟨_, ⟨hlt, rfl⟩, rfl⟩

/-- What can be looked at as a whole is read back up to its context if its places fit. -/
theorem ofJson_toJson_eq_ok_iff {step read : Step}
    (hplain : step.toJson.isPlain depthLimit = true) :
    ofJson step.toJson = .ok read ↔
      (∀ n ∈ step.places, n < Number.wordBound) ∧
        ∃ context, (∀ own ∈ step.context?, Context.ofJson own.toJson = .ok context) ∧
          read = step.inContext context := by
  unfold ofJson
  rw [if_pos hplain]
  cases step with
  | combat step =>
      change (CombatStep.ofJson (.object step.toFields)).map Step.combat = _ ↔ _
      rw [CombatStep.ofJson_toFields]
      simp only [Except.map_eq_ok_iff]
      constructor
      · rintro ⟨_, ⟨context, hcontext, rfl⟩, rfl⟩
        exact ⟨by simp [places], context, by simpa [context?] using hcontext, rfl⟩
      · rintro ⟨-, context, hcontext, rfl⟩
        exact ⟨_, ⟨context, hcontext step.context rfl, rfl⟩, rfl⟩
  | roleplay step =>
      change (RoleplayStep.ofJson (.object step.toFields)).map Step.roleplay = _ ↔ _
      simp only [Except.map_eq_ok_iff, RoleplayStep.ofJson_toFields_eq_ok_iff]
      constructor
      · rintro ⟨_, ⟨hlt, context, hcontext, rfl⟩, rfl⟩
        exact ⟨by simpa [places] using hlt, context, by simpa [context?] using hcontext, rfl⟩
      · rintro ⟨hlt, context, hcontext, rfl⟩
        exact ⟨_, ⟨by simpa [places] using hlt, context, hcontext step.context rfl, rfl⟩, rfl⟩
  | trigger target kind =>
      refine (@triggerOfJson_eq_ok_iff target kind read).trans ?_
      constructor
      · rintro ⟨hlt, rfl⟩
        exact ⟨by simpa [places] using hlt, .empty, by simp [context?], rfl⟩
      · rintro ⟨hlt, -, -, rfl⟩
        exact ⟨hlt target List.mem_cons_self, rfl⟩

theorem isPlain_of_ofJson {json : Json} {read : Step} (h : ofJson json = .ok read) :
    json.isPlain depthLimit = true := by
  unfold ofJson at h
  split at h
  next hplain => exact hplain
  next => cases h

/-- A step is read back from its text exactly if all of its numbers can be. -/
theorem reread_eq_ok_iff {step : Step} : reread toJson ofJson step = .ok step ↔ step.ReadsBack := by
  constructor
  · intro h
    have hread := Json.read_of_reread step.spelledBy_numberLike h
    obtain ⟨hplaces, context, hcontext, hstep⟩ :=
      (ofJson_toJson_eq_ok_iff (isPlain_of_ofJson hread)).1 hread
    refine ⟨hplaces, fun own hown => ?_⟩
    have hsame : step.context?.map (fun _ => context) = some own := by
      rw [← context?_inContext, ← hstep]
      exact hown
    obtain ⟨-, -, rfl⟩ := Option.map_eq_some_iff.1 hsame
    exact Context.ofJson_toJson_eq_ok_iff.1 (hcontext context hown)
  · intro h
    have hplain : step.toJson.isPlain depthLimit = true := h.spelledBy.isPlain (by decide)
    rw [Json.reread_of_spelledBy (h.spelledBy.mono fun _ hliteral => hliteral.isNumber),
      ofJson_toJson_eq_ok_iff hplain]
    refine ⟨h.places_lt, step.context?.getD .empty, fun own hown => ?_, ?_⟩
    · rw [hown, Option.getD_some]
      exact Context.ofJson_toJson_eq_ok_iff.2 (h.context own hown)
    · exact (inContext_self fun own hown => by rw [hown, Option.getD_some]).symm

/-- Whatever is read from the text of a step is that step up to the numbers in its context. -/
theorem kinds_of_reread {step read : Step} (h : reread toJson ofJson step = .ok read) :
    read.inContext .empty = step.inContext .empty ∧
      read.context?.map Context.kinds = step.context?.map Context.kinds := by
  have hread := Json.read_of_reread step.spelledBy_numberLike h
  obtain ⟨-, context, hcontext, rfl⟩ :=
    (ofJson_toJson_eq_ok_iff (isPlain_of_ofJson hread)).1 hread
  refine ⟨inContext_inContext _ _ _, ?_⟩
  rw [context?_inContext, Option.map_map]
  refine Option.map_congr fun own hown => ?_
  exact Context.kinds_of_ofJson_toJson (hcontext own hown)

end Step

/-- Every form is read back from the text that it is written as, exactly if its places fit into
sixty-four bits and the numbers in its context are finite and found again from their digits.
Whatever is read for a step is of its variant, and every variable has a value of its kind. -/
theorem reread_forms :
    (∀ step : Step, reread Step.toJson Step.ofJson step = .ok step ↔ step.ReadsBack) ∧
    (∀ step read : Step, reread Step.toJson Step.ofJson step = .ok read →
      read.inContext .empty = step.inContext .empty ∧
        read.context?.map Context.kinds = step.context?.map Context.kinds) ∧
    (∀ parameters : EventParameters,
      reread EventParameters.toJson EventParameters.ofJson parameters = .ok parameters) ∧
    (∀ encounter : Encounter, reread Encounter.toJson Encounter.ofJson encounter = .ok encounter) ∧
    (∀ span : Span, reread Span.toJson Span.ofJson span = .ok span ↔
      span.start.Fits ∧ span.stop.Fits) ∧
    ∀ tag : Tag, reread Tag.toJson Tag.ofJson tag = .ok tag := by
  refine ⟨fun _ => Step.reread_eq_ok_iff, fun _ _ => Step.kinds_of_reread,
    EventParameters.reread_eq_ok, fun encounter => ?_, fun span => ?_, fun tag => ?_⟩
  · rw [Json.reread_of_spelledBy (encounter.spelledBy (Json.isNumber_wholeText _)),
      encounter.ofJson_toJson]
  · rw [Json.reread_of_spelledBy span.spelledBy, Span.ofJson_toJson_eq_ok_iff]
  · rw [Json.reread_of_spelledBy tag.spelledBy, tag.ofJson_toJson]

/-- A piece of story with texts that have to be escaped, and with strings that look like other
values. -/
def lookalike : RoleplayStep where
  title := some "\"type\":\"combat\"\n"
  icon := none
  content := [⟨.instruction, "null"⟩, ⟨.text, "\\u0031"⟩]
  choices := [⟨"1", 0⟩, ⟨"", 18446744073709551615⟩]
  context := .ofList [("a", .string "1"), ("b", .string "true"), ("c", .boolean true),
    ("d", .number 2.5)]

/-- Nothing in such a piece of story is taken for what it looks like. Gifts are read back too. -/
theorem reread_lookalike :
    reread Step.toJson Step.ofJson (.roleplay lookalike) = .ok (.roleplay lookalike) ∧
      reread EventParameters.toJson EventParameters.ofJson ⟨none, some false, some (-1)⟩ =
        .ok ⟨none, some false, some (-1)⟩ := by
  have hentries : lookalike.context.entries =
      [("a", .string "1"), ("b", .string "true"), ("c", .boolean true), ("d", .number 2.5)] := by
    decide +kernel
  have hreads : Number.ReadsBack 2.5 := by
    unfold Number.ReadsBack
    decide +kernel
  have hfinite : Number.IsFinite 2.5 := ⟨false, 0x14000000000000, -51, by decide +kernel⟩
  refine ⟨(reread_forms.1 (.roleplay lookalike)).2 ⟨by decide, ?_⟩, reread_forms.2.2.1 _⟩
  intro context hcontext name x hget
  cases hcontext
  have hmem := NameMap.get?_eq_some_iff.1 hget
  rw [hentries] at hmem
  simp only [List.mem_cons, List.not_mem_nil, or_false, Prod.mk.injEq, reduceCtorEq, and_false,
    false_or, Value.number.injEq] at hmem
  rw [hmem.2]
  exact ⟨hfinite, hreads⟩

end Gamebook
