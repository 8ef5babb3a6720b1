import Gamebook.Command.Output
import Gamebook.Proofs.Form.Steps
import Gamebook.Proofs.Json.Printing

/-! # What the output of a command tells

Each line that a successful command prints states one fact, and no text in a fact can end its line
or pass for another fact. `successLines_unambiguous` says that the lines tell everything about the
step but its context, the parameters and the path.
-/

namespace Gamebook

/-- What a player is shown, with another context. -/
def Scene.inContext (context : Context) : Scene → Scene
  | .roleplay step => .roleplay { step with context := context }
  | .combat step => .combat { step with context := context }
  | .finish => .finish

namespace Command

/-- The kinds of what a player is shown. -/
inductive Shown where
  | roleplay
  | combat
  | finish

/-- The name of a kind of what a player is shown. -/
def Shown.word : Shown → String
  | .roleplay => "ROLEPLAY"
  | .combat => "COMBAT"
  | .finish => "END"

/-- What one line states. -/
inductive Fact where
  | done
  | parameters (parameters : EventParameters)
  | step (shown : Shown)
  | title (text : String)
  | icon (text : String)
  | content (item : ContentItem)
  | choice (choice : Choice)
  | enemy (enemy : Enemy)
  | stateOut (path : String)

namespace Fact

/-- What a line is about. -/
inductive Subject where
  | result
  | parameters
  | step
  | title
  | icon
  | content
  | choice
  | enemy
  | stateOut
deriving DecidableEq

/-- The word that a line begins with, before a colon. -/
def Subject.word : Subject → String
  | .result => "RESULT"
  | .parameters => "PARAMS_JSON"
  | .step => "STEP"
  | .title => "TITLE_JSON"
  | .icon => "ICON_JSON"
  | .content => "CONTENT"
  | .choice => "CHOICE"
  | .enemy => "ENEMY"
  | .stateOut => "STATE_OUT"

/-- What the line of a fact is about. -/
def subject : Fact → Subject
  | .done => .result
  | .parameters _ => .parameters
  | .step _ => .step
  | .title _ => .title
  | .icon _ => .icon
  | .content _ => .content
  | .choice _ => .choice
  | .enemy _ => .enemy
  | .stateOut _ => .stateOut

/-- What stands behind the name of an enemy. -/
def kindText : Option String → String
  | some kind => "|" ++ Json.stringText kind
  | none => ""

/-- What stands behind the colon. -/
def value : Fact → String
  | .done => "OK"
  | .parameters given => given.toJson.compact
  | .step shown => shown.word
  | .title text => Json.stringText text
  | .icon text => Json.stringText text
  | .content item => item.kind.name ++ "|" ++ Json.stringText item.text
  | .choice offered => Number.wholeText offered.index ++ "|" ++ Json.stringText offered.text
  | .enemy met =>
    Number.wholeText met.tier.toNat ++ "|" ++ (Json.stringText met.name ++ kindText met.kind)
  | .stateOut path => path

/-- The line that states a fact. -/
def line (fact : Fact) : String :=
  fact.subject.word ++ ":" ++ fact.value

end Fact

/-- The facts about what a player is shown. -/
def sceneFacts : Scene → List Fact
  | .roleplay step =>
    [.step .roleplay] ++ step.title.toList.map .title ++ step.icon.toList.map .icon
      ++ step.content.map .content ++ step.choices.map .choice
  | .combat step =>
    [.step .combat] ++ step.icon.toList.map .icon ++ step.enemies.map .enemy
  | .finish => [.step .finish]

/-- The facts that a successful command states. -/
def facts (scene : Scene) (parameters : Option EventParameters) (stateOut : String) : List Fact :=
  [.done] ++ parameters.toList.map .parameters ++ sceneFacts scene ++ [.stateOut stateOut]

theorem optionalLine_eq_map {label : String} {fact : String → Fact}
    (h : ∀ text, (fact text).line = label ++ Json.stringText text) (text : Option String) :
    optionalLine label text = text.toList.map (Fact.line ∘ fact) := by
  cases text with
  | none => rfl
  | some text => exact congrArg (fun line => [line]) (h text).symm

theorem line_comp_content : Fact.line ∘ Fact.content = contentLine := by
  funext item
  change "CONTENT:" ++ (item.kind.name ++ "|" ++ Json.stringText item.text) = contentLine item
  simp only [contentLine, String.append_assoc]

theorem line_comp_choice : Fact.line ∘ Fact.choice = choiceLine := by
  funext offered
  change "CHOICE:" ++ (Number.wholeText offered.index ++ "|" ++ Json.stringText offered.text) =
    choiceLine offered
  simp only [choiceLine, String.append_assoc]

theorem line_comp_enemy : Fact.line ∘ Fact.enemy = enemyLine := by
  funext met
  change "ENEMY:" ++ (Number.wholeText met.tier.toNat ++ "|"
    ++ (Json.stringText met.name ++ Fact.kindText met.kind)) = enemyLine met
  simp only [enemyLine, String.append_assoc]
  cases met.kind <;> rfl

theorem sceneLines_eq_map (scene : Scene) :
    sceneLines scene = (sceneFacts scene).map Fact.line := by
  have htitle := @optionalLine_eq_map "TITLE_JSON:" .title fun _ => rfl
  have hicon := @optionalLine_eq_map "ICON_JSON:" .icon fun _ => rfl
  cases scene with
  | roleplay step =>
      simp only [sceneLines, sceneFacts, List.map_append, List.map_map, htitle, hicon,
        line_comp_content, line_comp_choice]
      rfl
  | combat step =>
      simp only [sceneLines, sceneFacts, List.map_append, List.map_map, hicon, line_comp_enemy]
      rfl
  | finish => rfl

/-- The lines are those of the facts, one for each. -/
theorem successLines_eq_map (scene : Scene) (parameters : Option EventParameters)
    (stateOut : String) :
    successLines scene parameters stateOut = (facts scene parameters stateOut).map Fact.line := by
  simp only [successLines, facts, List.map_append, sceneLines_eq_map]
  cases parameters <;> rfl

/-! ## Lines are told apart -/

/-- Two texts are cut alike at the first of the same mark. -/
theorem append_cons_inj {α : Type} {mark : α} {before other after rest : List α}
    (hbefore : mark ∉ before) (hother : mark ∉ other)
    (h : before ++ mark :: after = other ++ mark :: rest) : before = other ∧ after = rest := by
  induction before generalizing other with
  | nil =>
      cases other with
      | nil => exact ⟨rfl, (List.cons.inj h).2⟩
      | cons first others =>
          obtain ⟨rfl, -⟩ := List.cons.inj h
          exact absurd List.mem_cons_self hother
  | cons first before ih =>
      cases other with
      | nil =>
          obtain ⟨rfl, -⟩ := List.cons.inj h
          exact absurd List.mem_cons_self hbefore
      | cons second others =>
          obtain ⟨rfl, htail⟩ := List.cons.inj h
          obtain ⟨rfl, rfl⟩ := ih (fun hmem => hbefore (List.mem_cons_of_mem _ hmem))
            (fun hmem => hother (List.mem_cons_of_mem _ hmem)) htail
          exact ⟨rfl, rfl⟩

theorem Shown.word_injective : Function.Injective word := by
  intro a b h
  cases a <;> cases b <;> first | rfl | exact absurd h (by decide)

namespace Fact

theorem Subject.colon_notMem_word (subject : Subject) : ':' ∉ subject.word.toList := by
  cases subject <;> decide

theorem Subject.word_injective : Function.Injective word := by
  intro a b h
  cases a <;> cases b <;> first | rfl | exact absurd h (by decide)

/-- A line is cut into its subject and its value in only one way. -/
theorem subject_value_of_line_eq {a b : Fact} (h : a.line = b.line) :
    a.subject = b.subject ∧ a.value = b.value := by
  have hchars := congrArg String.toList h
  simp only [line, String.toList_append, List.append_assoc] at hchars
  obtain ⟨hword, hvalue⟩ := append_cons_inj a.subject.colon_notMem_word
    b.subject.colon_notMem_word hchars
  exact ⟨Subject.word_injective (String.toList_injective hword), String.toList_injective hvalue⟩

/-- A number before a bar is found again, with what follows it. -/
theorem wholeText_bar_inj {m n : Nat} {s t : String}
    (h : Number.wholeText m ++ "|" ++ s = Number.wholeText n ++ "|" ++ t) : m = n ∧ s = t := by
  have hbar (k : Nat) : '|' ∉ Number.wholeDigits k := fun hmem =>
    absurd (Number.isDigit_of_mem_wholeDigits hmem) (by decide)
  have hchars := congrArg String.toList h
  simp only [String.toList_append, Number.toList_wholeText, List.append_assoc] at hchars
  obtain ⟨hdigits, hrest⟩ := append_cons_inj (hbar m) (hbar n) hchars
  exact ⟨Number.wholeDigits_injective hdigits, String.toList_injective hrest⟩

theorem kindName_bar_inj {a b : ContentKind} {s t : String}
    (h : a.name ++ "|" ++ s = b.name ++ "|" ++ t) : a = b ∧ s = t := by
  have hbar (kind : ContentKind) : '|' ∉ kind.name.toList := by
    cases kind <;> decide
  have hchars := congrArg String.toList h
  simp only [String.toList_append, List.append_assoc] at hchars
  obtain ⟨hname, hrest⟩ := append_cons_inj (hbar a) (hbar b) hchars
  refine ⟨?_, String.toList_injective hrest⟩
  cases a <;> cases b <;> first | rfl | exact absurd hname (by decide)

/-- A quoted text is found again, with what follows it. -/
theorem stringText_append_inj {s t after rest : String}
    (h : Json.stringText s ++ after = Json.stringText t ++ rest) : s = t ∧ after = rest := by
  have hchars := congrArg String.toList h
  simp only [String.toList_append, Json.stringText, String.toList_ofList] at hchars
  obtain ⟨hs, hrest⟩ := Json.stringChars_append_inj hchars
  exact ⟨hs, String.toList_injective hrest⟩

theorem kindText_injective : Function.Injective kindText := by
  intro a b h
  have hchars := congrArg String.toList h
  cases a with
  | none =>
      cases b with
      | none => rfl
      | some kind =>
          simp [kindText] at hchars
  | some kind =>
      cases b with
      | none =>
          simp [kindText] at hchars
      | some other =>
          simp only [kindText, String.toList_append] at hchars
          have htext := String.toList_injective (List.cons.inj hchars).2
          rw [Json.stringText_injective htext]

/-- No two facts have one line. -/
theorem line_injective : Function.Injective line := by
  intro a b h
  obtain ⟨hsubject, hvalue⟩ := subject_value_of_line_eq h
  cases a with
  | done =>
      cases b with
      | done => rfl
      | _ => cases hsubject
  | parameters given =>
      cases b with
      | parameters other =>
          exact congrArg parameters (Json.eq_of_compact_eq given.reread_eq_ok other.reread_eq_ok
            hvalue)
      | _ => cases hsubject
  | step shown =>
      cases b with
      | step other => exact congrArg step (Shown.word_injective hvalue)
      | _ => cases hsubject
  | title text =>
      cases b with
      | title other => exact congrArg title (Json.stringText_injective hvalue)
      | _ => cases hsubject
  | icon text =>
      cases b with
      | icon other => exact congrArg icon (Json.stringText_injective hvalue)
      | _ => cases hsubject
  | content item =>
      cases b with
      | content other =>
          obtain ⟨hkind, htext⟩ := kindName_bar_inj hvalue
          have hsame := Json.stringText_injective htext
          obtain ⟨kind, text⟩ := item
          cases hkind
          cases hsame
          rfl
      | _ => cases hsubject
  | choice offered =>
      cases b with
      | choice other =>
          obtain ⟨hindex, htext⟩ := wholeText_bar_inj hvalue
          have hsame := Json.stringText_injective htext
          obtain ⟨text, index⟩ := offered
          cases hindex
          cases hsame
          rfl
      | _ => cases hsubject
  | enemy met =>
      cases b with
      | enemy other =>
          obtain ⟨htier, hrest⟩ := wholeText_bar_inj hvalue
          obtain ⟨hname, hkind⟩ := stringText_append_inj hrest
          obtain ⟨name, tier, kind⟩ := met
          cases UInt32.toNat_inj.1 htier
          cases hname
          cases kindText_injective hkind
          rfl
      | _ => cases hsubject
  | stateOut path =>
      cases b with
      | stateOut other => exact congrArg stateOut hvalue
      | _ => cases hsubject

end Fact

/-! ## Facts are found again among all lines -/

theorem eq_of_map_toList_eq {α : Type} {write : α → Fact}
    (hwrite : ∀ x y, write x = write y → x = y) {a b : Option α}
    (h : a.toList.map write = b.toList.map write) : a = b := by
  have htoList := (List.map_inj_right hwrite).1 h
  rw [← a.head?_toList, htoList, b.head?_toList]

theorem sceneFacts_roleplay_inj {step other : RoleplayStep}
    (h : sceneFacts (.roleplay step) = sceneFacts (.roleplay other)) :
    step.title = other.title ∧ step.icon = other.icon ∧ step.content = other.content ∧
      step.choices = other.choices := by
  have hpart (subject : Fact.Subject) :=
    congrArg (List.filter fun fact => fact.subject = subject) h
  simp only [sceneFacts, List.filter_append, List.filter_map, Function.comp_def, Fact.subject]
    at hpart
  have htitle : step.title.toList.map Fact.title = other.title.toList.map .title := by
    simpa using hpart .title
  have hicon : step.icon.toList.map Fact.icon = other.icon.toList.map .icon := by
    simpa using hpart .icon
  have hcontent : step.content.map Fact.content = other.content.map .content := by
    simpa using hpart .content
  have hchoices : step.choices.map Fact.choice = other.choices.map .choice := by
    simpa using hpart .choice
  refine ⟨?_, ?_, ?_, ?_⟩
  · exact eq_of_map_toList_eq (fun _ _ => Fact.title.inj) htitle
  · exact eq_of_map_toList_eq (fun _ _ => Fact.icon.inj) hicon
  · exact (List.map_inj_right fun _ _ => Fact.content.inj).1 hcontent
  · exact (List.map_inj_right fun _ _ => Fact.choice.inj).1 hchoices

theorem sceneFacts_combat_inj {step other : CombatStep}
    (h : sceneFacts (.combat step) = sceneFacts (.combat other)) :
    step.icon = other.icon ∧ step.enemies = other.enemies := by
  have hpart (subject : Fact.Subject) :=
    congrArg (List.filter fun fact => fact.subject = subject) h
  simp only [sceneFacts, List.filter_append, List.filter_map, Function.comp_def, Fact.subject]
    at hpart
  have hicon : step.icon.toList.map Fact.icon = other.icon.toList.map .icon := by
    simpa using hpart .icon
  have henemies : step.enemies.map Fact.enemy = other.enemies.map .enemy := by
    simpa using hpart .enemy
  exact ⟨eq_of_map_toList_eq (fun _ _ => Fact.icon.inj) hicon,
    (List.map_inj_right fun _ _ => Fact.enemy.inj).1 henemies⟩

/-- The facts about a step tell everything but its context. -/
theorem sceneFacts_eq_iff {a b : Scene} :
    sceneFacts a = sceneFacts b ↔ a.inContext .empty = b.inContext .empty := by
  have hcontext (scene : Scene) : sceneFacts (scene.inContext .empty) = sceneFacts scene := by
    cases scene <;> rfl
  constructor
  · intro h
    cases a with
    | roleplay step =>
        cases b with
        | roleplay other =>
            obtain ⟨htitle, hicon, hcontent, hchoices⟩ := sceneFacts_roleplay_inj h
            simp only [Scene.inContext, htitle, hicon, hcontent, hchoices]
        | combat other => simp [sceneFacts] at h
        | finish => simp [sceneFacts] at h
    | combat step =>
        cases b with
        | roleplay other => simp [sceneFacts] at h
        | combat other =>
            obtain ⟨hicon, henemies⟩ := sceneFacts_combat_inj h
            simp only [Scene.inContext, hicon, henemies]
        | finish => simp [sceneFacts] at h
    | finish =>
        cases b with
        | roleplay other => simp [sceneFacts] at h
        | combat other => simp [sceneFacts] at h
        | finish => rfl
  · intro h
    rw [← hcontext a, ← hcontext b, h]

theorem facts_eq_iff {a b : Scene} {parameters others : Option EventParameters}
    {path other : String} :
    facts a parameters path = facts b others other ↔
      sceneFacts a = sceneFacts b ∧ parameters = others ∧ path = other := by
  constructor
  · intro h
    obtain ⟨hinit, hlast⟩ := List.append_inj' h rfl
    have hnone (scene : Scene) :
        (sceneFacts scene).filter (fun fact => fact.subject = .parameters) = [] := by
      cases scene <;> simp [sceneFacts, List.filter_map, Function.comp_def, Fact.subject]
    have hpart := congrArg (List.filter fun fact => fact.subject = .parameters) hinit
    simp only [List.filter_append, hnone, List.append_nil] at hpart
    simp [List.filter_map, Function.comp_def, Fact.subject] at hpart
    have hparameters := eq_of_map_toList_eq (fun _ _ => Fact.parameters.inj) hpart
    subst hparameters
    exact ⟨List.append_cancel_left hinit, rfl, Fact.stateOut.inj (List.cons.inj hlast).1⟩
  · rintro ⟨hscene, rfl, rfl⟩
    rw [facts, facts, hscene]

/-! ## Lines have no line breaks -/

/-- A text without line breaks. -/
def OneLine (text : String) : Prop :=
  ∀ c ∈ text.toList, c ≠ '\n' ∧ c ≠ '\r'

/-- A text without control characters has no line breaks. -/
theorem oneLine_of_isPrinted {text : String} (h : ∀ c ∈ text.toList, Json.isPrinted c = true) :
    OneLine text := by
  intro c hc
  have hprinted := h c hc
  refine ⟨?_, ?_⟩ <;> rintro rfl <;> exact absurd hprinted (by decide)

theorem oneLine_of_all {text : String} (h : text.toList.all Json.isPrinted = true) : OneLine text :=
  oneLine_of_isPrinted (List.all_eq_true.1 h)

theorem oneLine_append {s t : String} : OneLine (s ++ t) ↔ OneLine s ∧ OneLine t := by
  simp only [OneLine, String.toList_append, List.forall_mem_append]

theorem oneLine_stringText (s : String) : OneLine (Json.stringText s) := by
  refine oneLine_of_isPrinted fun c hc => ?_
  rw [Json.stringText, String.toList_ofList] at hc
  exact Json.isPrinted_of_mem_stringChars c hc

theorem oneLine_wholeText (n : Nat) : OneLine (Number.wholeText n) :=
  oneLine_of_isPrinted fun c hc => Json.isPrinted_of_isNumberChar (Json.all_wholeText n c hc)

theorem oneLine_bar : OneLine "|" :=
  oneLine_of_all rfl

theorem oneLine_parameters (parameters : EventParameters) :
    OneLine parameters.toJson.compact := by
  have hspelled := (parameters.spelledBy.mono fun _ hliteral => hliteral.numberLike).spelled
  exact oneLine_of_isPrinted (Json.isPrinted_of_mem_compact hspelled)

theorem oneLine_kindText (kind : Option String) : OneLine (Fact.kindText kind) := by
  cases kind with
  | none => exact oneLine_of_all rfl
  | some kind => exact oneLine_append.2 ⟨oneLine_bar, oneLine_stringText kind⟩

/-- Only a path can break the line that states it. -/
theorem oneLine_line {fact : Fact} (h : ∀ path, fact = .stateOut path → OneLine path) :
    OneLine fact.line := by
  have hword : OneLine fact.subject.word := by
    cases fact.subject <;> exact oneLine_of_all rfl
  have hcolon : OneLine ":" := oneLine_of_all rfl
  refine oneLine_append.2 ⟨oneLine_append.2 ⟨hword, hcolon⟩, ?_⟩
  cases fact with
  | done => exact oneLine_of_all rfl
  | parameters given => exact oneLine_parameters given
  | step shown => cases shown <;> exact oneLine_of_all rfl
  | title text => exact oneLine_stringText text
  | icon text => exact oneLine_stringText text
  | content item =>
      have hkind : OneLine item.kind.name := by
        cases item.kind <;> exact oneLine_of_all rfl
      exact oneLine_append.2 ⟨oneLine_append.2 ⟨hkind, oneLine_bar⟩, oneLine_stringText _⟩
  | choice offered =>
      exact oneLine_append.2
        ⟨oneLine_append.2 ⟨oneLine_wholeText _, oneLine_bar⟩, oneLine_stringText _⟩
  | enemy met =>
      exact oneLine_append.2 ⟨oneLine_append.2 ⟨oneLine_wholeText _, oneLine_bar⟩,
        oneLine_append.2 ⟨oneLine_stringText _, oneLine_kindText _⟩⟩
  | stateOut path => exact h path rfl

theorem eq_of_stateOut_mem_facts {scene : Scene} {parameters : Option EventParameters}
    {stateOut path : String} (h : .stateOut path ∈ facts scene parameters stateOut) :
    path = stateOut := by
  cases scene <;> simpa [facts, sceneFacts] using h

/-- Whatever texts a step holds, no line is broken unless the path is, and the lines tell everything
about the step but its context, what an event gave, and where the game was saved. -/
theorem successLines_unambiguous {stateOut : String} (hpath : OneLine stateOut)
    (scene other : Scene) (parameters others : Option EventParameters) (otherOut : String) :
    (∀ line ∈ successLines scene parameters stateOut, OneLine line) ∧
      (successLines scene parameters stateOut = successLines other others otherOut ↔
        scene.inContext .empty = other.inContext .empty ∧ parameters = others ∧
          stateOut = otherOut) := by
  rw [successLines_eq_map, successLines_eq_map]
  constructor
  · intro line hline
    obtain ⟨fact, hfact, rfl⟩ := List.mem_map.1 hline
    refine oneLine_line fun path hstate => ?_
    subst hstate
    rw [eq_of_stateOut_mem_facts hfact]
    exact hpath
  · rw [List.map_inj_right fun _ _ h => Fact.line_injective h, facts_eq_iff, sceneFacts_eq_iff]

/-- A choice whose text contains the line of another choice. -/
def forgery : RoleplayStep :=
  ⟨none, none, [], [⟨"a\"\nCHOICE:1|\"b", 0⟩], .empty⟩

/-- The two choices that a forgery looks like. -/
def forged : RoleplayStep :=
  ⟨none, none, [], [⟨"a", 0⟩, ⟨"b", 1⟩], .empty⟩

/-- No text of the forgery leaves its line, so its lines are not those that it looks like. -/
theorem successLines_unambiguous_forgery :
    (∀ line ∈ successLines (.roleplay forgery) (some ⟨none, some true, some (-3)⟩) "out",
      OneLine line) ∧
    successLines (.roleplay forgery) (some ⟨none, some true, some (-3)⟩) "out" ≠
      successLines (.roleplay forged) (some ⟨none, some true, some (-3)⟩) "out" := by
  have hpath : OneLine "out" := oneLine_of_all rfl
  obtain ⟨hlines, hiff⟩ := successLines_unambiguous hpath (.roleplay forgery) (.roleplay forged)
    (some ⟨none, some true, some (-3)⟩) (some ⟨none, some true, some (-3)⟩) "out"
  have hdiffer : (Scene.roleplay forgery).inContext .empty ≠
      (Scene.roleplay forged).inContext .empty := by
    decide
  exact ⟨hlines, fun heq => hdiffer (hiff.1 heq).1⟩

end Command

end Gamebook
