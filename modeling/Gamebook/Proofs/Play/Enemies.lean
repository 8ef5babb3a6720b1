import Mathlib.Data.List.Induction
import Gamebook.Form.Encounter
import Gamebook.Proofs.Play.Verdicts
import Gamebook.Proofs.Text.SmallLetters

/-! # What is known of enemies

A table knows an enemy by its name in small letters without the blanks around it, and of several
encounters put in under such a name by the last. A line of a combat is looked up in small letters,
but with its blanks if these come from the value of a script. `known_iff_of_loadCombat` says which
enemies of a combat are what the table knows.
-/

namespace Gamebook

/-- The name that a line stands for: the value of the script that it is, if it is one that has a
value, and otherwise the line without the blanks around it. -/
inductive NamesEnemy (context : Context) (line : String) : String → Prop where
  | script {script : Script} {effect : Script.Effect}
      (hscript : Script.ofSpan? line.toList = some script)
      (hrun : script.run context = .ok effect) : NamesEnemy context line effect.value.text
  | plain (hplain : ∀ script effect, Script.ofSpan? line.toList = some script →
        script.run context ≠ .ok effect) :
      NamesEnemy context line (Text.trimmed line)

/-- The enemy of a name, for a table that was filled one encounter after the other: what was put in
last under the name, whatever its case and the blanks around it, or else an enemy of the lowest
tier. -/
inductive KnownAs (inserts : List (String × Encounter)) (name : String) : Enemy → Prop where
  | known {before after : List (String × Encounter)} {key : String} {encounter : Encounter}
      (hinserts : inserts = before ++ (key, encounter) :: after)
      (hkey : encounterKey key = encounterKey name)
      (hlast : ∀ later ∈ after, encounterKey later.1 ≠ encounterKey name) :
      KnownAs inserts name ⟨encounter.name, encounter.tier, encounter.kind⟩
  | unknown (hnone : ∀ entry ∈ inserts, encounterKey entry.1 ≠ encounterKey name) :
      KnownAs inserts name ⟨name, 1, none⟩

/-- An enemy with a name that no encounter has is one of the lowest tier, and nothing was put in
under the name that was asked for. -/
theorem KnownAs.unlisted_of_new {inserts : List (String × Encounter)} {name : String}
    {enemy : Enemy} (h : KnownAs inserts name enemy)
    (hnew : ∀ entry ∈ inserts, entry.2.name ≠ enemy.name) :
    enemy = ⟨name, 1, none⟩ ∧ ∀ entry ∈ inserts, encounterKey entry.1 ≠ encounterKey name := by
  cases h with
  | @known before after key encounter hinserts =>
      have hmem : (key, encounter) ∈ inserts := hinserts ▸ List.mem_append_cons_self
      exact absurd rfl (hnew _ hmem)
  | unknown hnone => exact ⟨rfl, hnone⟩

theorem namesEnemy_enemyName (line : String) (context : Context) :
    NamesEnemy context line (enemyName line context) := by
  have htrim : Script.ofSpan? (Text.trim line.toList) = Script.ofSpan? line.toList := by
    rw [Script.ofSpan?, Script.ofSpan?, Text.trim_trim]
  unfold enemyName
  dsimp only
  rw [htrim]
  split
  next hnone =>
    apply NamesEnemy.plain
    intro script effect hscript
    rw [hnone] at hscript
    cases hscript
  next script hscript =>
    split
    next effect hrun => exact .script hscript hrun
    next failure hrun =>
      apply NamesEnemy.plain
      intro other effect hother
      cases hscript.symm.trans hother
      simp [hrun]

namespace Encounters

/-- A look-up finds what was put in last under the key. -/
theorem lookup?_ofList (inserts : List (String × Encounter)) (key : String) :
    (ofList inserts).lookup? key =
      (inserts.reverse.find? fun entry => encounterKey entry.1 == key).map Prod.snd := by
  induction inserts using List.reverseRecOn with
  | nil => rfl
  | append_singleton inserts entry ih =>
      have hlast : ofList (inserts ++ [entry]) = (ofList inserts).insert entry.1 entry.2 := by
        rw [ofList, List.foldl_append]
        rfl
      rw [hlast, lookup?_insert, List.reverse_append, List.reverse_singleton,
        List.singleton_append, List.find?_cons]
      by_cases hkey : key = encounterKey entry.1
      · simp [hkey]
      · have hne : (encounterKey entry.1 == key) = false :=
          beq_eq_false_iff_ne.2 (Ne.symm hkey)
        rw [if_neg hkey, hne, ih]

/-- The small letters of a name are the key of another name exactly if there are no blanks around
the name and the two have the same key. -/
theorem lowercase_eq_encounterKey_iff {name other : String} :
    Text.lowercase name = encounterKey other ↔
      Text.trimmed name = name ∧ encounterKey name = encounterKey other := by
  constructor
  · intro h
    have hother : Text.trimmed (Text.trimmed other) = Text.trimmed other := by
      rw [Text.trimmed, Text.trimmed, String.toList_ofList, Text.trim_trim]
    have hname : Text.trimmed name = name := by
      rw [← Text.trimmed_lowercase_eq_self_iff, h, encounterKey,
        Text.trimmed_lowercase_eq_self_iff]
      exact hother
    refine ⟨hname, ?_⟩
    rw [encounterKey, hname, h]
  · rintro ⟨hname, hkey⟩
    rw [← hkey, encounterKey, hname]

/-- Whether a table knows an enemy depends on the blanks around its name. -/
theorem enemy_cases (inserts : List (String × Encounter)) (line : String) (context : Context) :
    (Text.trimmed (enemyName line context) = enemyName line context ∧
      KnownAs inserts (enemyName line context) ((ofList inserts).enemy line context)) ∨
    (Text.trimmed (enemyName line context) ≠ enemyName line context ∧
      (ofList inserts).enemy line context = ⟨enemyName line context, 1, none⟩) := by
  unfold enemy
  generalize enemyName line context = name
  dsimp only
  rw [lookup?_ofList]
  cases hfind : inserts.reverse.find? fun entry => encounterKey entry.1 == Text.lowercase name with
  | some entry =>
      obtain ⟨hkey, before, after, hinserts, hbefore⟩ := List.find?_eq_some_iff_append.1 hfind
      obtain ⟨hname, hsame⟩ := lowercase_eq_encounterKey_iff.1 (beq_iff_eq.1 hkey).symm
      have hlast : inserts = after.reverse ++ (entry.1, entry.2) :: before.reverse := by
        rw [List.reverse_eq_iff] at hinserts
        simpa using hinserts
      refine Or.inl ⟨hname, .known hlast hsame.symm ?_⟩
      · intro later hlater hlast
        have hne := hbefore later (List.mem_reverse.1 hlater)
        rw [hlast, hsame, beq_iff_eq.1 hkey] at hne
        simp at hne
  | none =>
      have hnone : ∀ entry ∈ inserts, encounterKey entry.1 ≠ Text.lowercase name := by
        simpa using hfind
      by_cases hname : Text.trimmed name = name
      · refine Or.inl ⟨hname, .unknown fun entry hentry hkey => hnone entry hentry ?_⟩
        rw [hkey, encounterKey, hname]
      · exact Or.inr ⟨hname, rfl⟩

/-- A table is read from a JSON text by putting in what stands under each name, in increasing order
of the names. -/
theorem exists_fields_of_ofText {text : String} {table : Encounters} (h : ofText text = .ok table) :
    ∃ fields entries, Json.ofText text = .ok (.object fields) ∧
      List.Forall₂ (fun field entry => entry.1 = field.1 ∧ Encounter.ofJson field.2 = .ok entry.2)
        fields entries ∧ table = ofList (NameMap.ofList entries).entries := by
  unfold ofText at h
  split at h
  next read hread =>
    cases h
    obtain ⟨json, hjson, hread⟩ := Except.bind_eq_ok_iff.1 hread
    unfold ofJson at hread
    split at hread
    next fields =>
      obtain ⟨entries, hentries, hread⟩ := Except.bind_eq_ok_iff.1 hread
      cases hread
      refine ⟨fields, entries, hjson, ?_, rfl⟩
      refine (Except.forall₂_of_mapM hentries).imp ?_
      intro field entry hentry
      obtain ⟨encounter, hencounter, hpair⟩ := Except.bind_eq_ok_iff.1 hentry
      cases hpair
      exact ⟨rfl, hencounter⟩
    next => cases hread
  next => cases h

end Encounters

namespace Document

variable {d : Document}

theorem enemies_of_loadCombat {table : Encounters} {r : d.Ref} {context : Context}
    {step : CombatStep} (h : (d.loadCombat table r context).answer = .ok step) :
    step.enemies = (d.enemyLines r context).map fun line =>
      table.enemy (d.node line).text (d.contextWithin r context) := by
  obtain ⟨answer, hjudged⟩ := exists_judged table r context
  rw [answer_loadCombat_of_judged hjudged] at h
  subst h
  cases hjudged
  rfl

/-- In a combat that is shown, each line that takes part brings an enemy for the name that it stands
for. The enemy is what the table knows by that name exactly if there are no blanks around the name,
or the table does not know anything else by it; for with blanks around its name no enemy is known.
Tables that are read from JSON are filled like all others. -/
theorem known_iff_of_loadCombat {inserts : List (String × Encounter)} {r : d.Ref}
    {context : Context} {step : CombatStep}
    (h : (d.loadCombat (.ofList inserts) r context).answer = .ok step) :
    List.Forall₂ (fun line enemy => ∃ name,
        NamesEnemy (d.contextWithin r context) (d.node line).text name ∧
        (KnownAs inserts name enemy ↔
          Text.trimmed name = name ∨ KnownAs inserts name ⟨name, 1, none⟩) ∧
        (Text.trimmed name ≠ name → enemy = ⟨name, 1, none⟩))
      (d.enemyLines r context) step.enemies ∧
    ∀ text table, Encounters.ofText text = .ok table →
      ∃ fields entries, Json.ofText text = .ok (.object fields) ∧
        List.Forall₂ (fun field entry =>
            entry.1 = field.1 ∧ Encounter.ofJson field.2 = .ok entry.2) fields entries ∧
        table = .ofList (NameMap.ofList entries).entries := by
  refine ⟨?_, fun text table => Encounters.exists_fields_of_ofText⟩
  rw [enemies_of_loadCombat h, List.forall₂_map_right_iff, List.forall₂_same]
  intro line _
  refine ⟨_, namesEnemy_enemyName _ _, ?_⟩
  rcases Encounters.enemy_cases inserts (d.node line).text (d.contextWithin r context) with
    ⟨hname, hknown⟩ | ⟨hname, henemy⟩
  · exact ⟨iff_of_true hknown (Or.inl hname), fun hne => absurd hname hne⟩
  · refine ⟨?_, fun _ => henemy⟩
    rw [henemy, or_iff_right hname]

/-- Encounters of which two are put in under the name of a lich. -/
def cryptInserts : List (String × Encounter) :=
  [("Lich", ⟨"Lich", 4, some "Undead"⟩), ("Rat", ⟨"Rat", 1, some "Beast"⟩),
    (" LICH\t", ⟨"Elder Lich", 7, some "Undead"⟩)]

/-- A crypt with two enemies of the same name, of which the second has blanks around it that come
from a script. -/
def crypt : String :=
  r"<quest><combat><e> lich </e><e>{{' Lich '}}</e><event on='win'><trigger>end</trigger>" ++
    "</event><event on='lose'><trigger>end</trigger></event></combat></quest>"

/-- The first enemy of the crypt is the lich that was put in last. The second is named with its
blanks, so it is not known, although the table knows a lich by this name too. -/
theorem known_iff_of_loadCombat_crypt :
    ∃ (d : Document) (r first second : d.Ref) (step : CombatStep), read crypt = .ok d ∧
      (d.loadCombat (.ofList cryptInserts) r NameMap.empty).answer = .ok step ∧
      step.enemies = [⟨"Elder Lich", 7, some "Undead"⟩, ⟨" Lich ", 1, none⟩] ∧
      d.enemyLines r NameMap.empty = [first, second] ∧
      (∃ name, NamesEnemy (d.contextWithin r NameMap.empty) (d.node first).text name ∧
        KnownAs cryptInserts name ⟨"Elder Lich", 7, some "Undead"⟩) ∧
      NamesEnemy (d.contextWithin r NameMap.empty) (d.node second).text " Lich " ∧
      ¬ KnownAs cryptInserts " Lich " ⟨" Lich ", 1, none⟩ := by
  have hresult : (read crypt).toOption.any (fun d => (d.ref? 1).any fun r =>
      (d.loadCombat (.ofList cryptInserts) r NameMap.empty).answer.toOption.any fun step =>
        decide (step.enemies =
          [⟨"Elder Lich", 7, some "Undead"⟩, ⟨" Lich ", 1, none⟩])) = true := by
    decide +kernel
  have hinserts : ∀ entry ∈ cryptInserts, entry.2.name ≠ " Lich " := by decide
  obtain ⟨d, hd, hresult⟩ := (Option.any_eq_true _ _).1 hresult
  obtain ⟨r, -, hresult⟩ := (Option.any_eq_true _ _).1 hresult
  obtain ⟨step, hstep, hresult⟩ := (Option.any_eq_true _ _).1 hresult
  have hshown := Except.toOption_eq_some_iff.1 hstep
  have henemies := of_decide_eq_true hresult
  have hlines := (known_iff_of_loadCombat hshown).1
  rw [henemies] at hlines
  obtain ⟨first, _, ⟨name, hfirst, hknown, hblanks⟩, hrest, hall⟩ :=
    List.forall₂_cons_right_iff.1 hlines
  obtain ⟨second, _, ⟨blank, hsecond, hunknown, hblank⟩, hnil, rfl⟩ :=
    List.forall₂_cons_right_iff.1 hrest
  obtain rfl := List.forall₂_nil_right_iff.1 hnil
  -- With blanks around its name the first enemy would be of the lowest tier.
  have htrimmed : Text.trimmed name = name := by
    by_contra hne
    have htier := congrArg Enemy.tier (hblanks hne)
    cases htier
  have henemy : (⟨" Lich ", 1, none⟩ : Enemy) = ⟨blank, 1, none⟩ := by
    by_cases htrimmed : Text.trimmed blank = blank
    · exact ((hunknown.2 (Or.inl htrimmed)).unlisted_of_new hinserts).1
    · exact hblank htrimmed
  have hname : blank = " Lich " := (congrArg Enemy.name henemy).symm
  refine ⟨d, r, first, second, step, Except.toOption_eq_some_iff.1 hd, hshown, henemies, hall,
    ⟨name, hfirst, hknown.2 (Or.inl htrimmed)⟩, hname ▸ hsecond, fun hlich => ?_⟩
  have hunlisted := (hlich.unlisted_of_new hinserts).2
  exact hunlisted ("Lich", _) List.mem_cons_self (by decide)

end Document

end Gamebook
