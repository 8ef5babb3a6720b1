import Gamebook.Command.SavedGame
import Gamebook.Proofs.Form.Contexts

/-! # Saved games that are written and read

`SavedGame.exists_ofText_iff` says which games can be read back from the text that they are saved
as: those whose variables hold no number that is not finite or not found again from its digits.
-/

namespace Gamebook

namespace Snapshot

/-- A snapshot whose numbers can all be read back. -/
structure ReadsBack (snapshot : Snapshot) : Prop where
  node_lt : ∀ number, snapshot.node = some number → number < Number.wordBound
  context : snapshot.context.ReadsBack

/-- A snapshot is spelled as its numbers are. -/
theorem spelledBy {p : String → Prop} {depth : Nat} {snapshot : Snapshot}
    (hnode : ∀ n, p (Number.wholeText n))
    (hcontext : ∀ name x, snapshot.context.get? name = some (.number x) → Number.IsFinite x →
      p (Number.Layout.signed.render x)) : Json.SpelledBy p (depth + 2) snapshot.toJson := by
  refine .object fun field hfield => ?_
  simp only [List.mem_cons, List.not_mem_nil, or_false] at hfield
  rcases hfield with rfl | rfl | rfl
  · cases snapshot.node with
    | none => exact .null
    | some number => exact .number (hnode number)
  · exact Context.spelledBy hcontext
  · exact .boolean _

theorem ofJson_toJson (snapshot : Snapshot) :
    ofJson snapshot.toJson =
      (Record.orNull Json.asCount (.ofOption .ofNat snapshot.node)).bind fun node =>
        (Context.ofJson snapshot.context.toJson).map fun context =>
          ⟨node, context, snapshot.ended⟩ := by
  rw [ofJson]
  change Except.bind (Record.orNull Json.asCount _) _ = Except.bind _ _
  congr 1

theorem orNull_ofOption_eq_ok_iff {node read : Option Nat} :
    Record.orNull Json.asCount (.ofOption .ofNat node) = .ok read ↔
      (∀ number, node = some number → number < Number.wordBound) ∧ read = node := by
  cases node with
  | none => simp [Record.orNull, Json.ofOption, eq_comm]
  | some number =>
      change (Json.ofNat number).asCount.map some = .ok read ↔ _
      simp only [Except.map_eq_ok_iff, Json.asCount_ofNat_eq_ok_iff, Option.some.injEq, forall_eq']
      constructor
      · rintro ⟨count, ⟨hlt, rfl⟩, rfl⟩
        exact ⟨hlt, rfl⟩
      · rintro ⟨hlt, rfl⟩
        exact ⟨number, ⟨hlt, rfl⟩, rfl⟩

/-- A snapshot is read back exactly if its numbers are. -/
theorem ofJson_toJson_eq_ok_iff {snapshot : Snapshot} :
    ofJson snapshot.toJson = .ok snapshot ↔ snapshot.ReadsBack := by
  rw [ofJson_toJson, Except.bind_eq_ok_iff]
  simp only [orNull_ofOption_eq_ok_iff, Except.map_eq_ok_iff]
  constructor
  · rintro ⟨_, ⟨hlt, rfl⟩, context, hcontext, hsame⟩
    have hread : context = snapshot.context := by rw [← hsame]
    rw [hread] at hcontext
    exact ⟨hlt, Context.ofJson_toJson_eq_ok_iff.1 hcontext⟩
  · rintro ⟨hlt, hcontext⟩
    exact ⟨snapshot.node, ⟨hlt, rfl⟩, snapshot.context,
      Context.ofJson_toJson_eq_ok_iff.2 hcontext, rfl⟩

/-- Where digits suffice, a snapshot that anything is read back for is read back as it is. -/
theorem readsBack_of_ofJson_toJson {snapshot read : Snapshot}
    (hdigits : snapshot.context.DigitsSuffice) (h : ofJson snapshot.toJson = .ok read) :
    snapshot.ReadsBack := by
  rw [ofJson_toJson] at h
  obtain ⟨node, hnode, h⟩ := Except.bind_eq_ok_iff.1 h
  obtain ⟨context, hcontext, -⟩ := Except.map_eq_ok_iff.1 h
  exact ⟨(orNull_ofOption_eq_ok_iff.1 hnode).1,
    Context.readsBack_of_ofJson_toJson hdigits hcontext⟩

end Snapshot

namespace Command.SavedGame

theorem ofJson_toJson (game : SavedGame) :
    ofJson game.toJson = (Snapshot.ofJson game.snapshot.toJson).map fun snapshot =>
      { game with snapshot := snapshot } := by
  obtain ⟨schema, questPath, encountersPath, snapshot⟩ := game
  cases encountersPath with
  | none =>
    change Except.bind (Snapshot.ofJson snapshot.toJson) _ = _
    cases Snapshot.ofJson snapshot.toJson <;> rfl
  | some path =>
    change Except.bind (Snapshot.ofJson snapshot.toJson) _ = _
    cases Snapshot.ofJson snapshot.toJson <;> rfl

/-- Beside its snapshot a saved game is made of strings. -/
theorem exists_fields (game : SavedGame) :
    ∃ fields, game.toJson = .object fields ∧
      ∀ field ∈ fields, (∃ s, field.2 = .string s) ∨ field.2 = game.snapshot.toJson := by
  obtain ⟨schema, questPath, encountersPath, snapshot⟩ := game
  cases encountersPath <;> exact ⟨_, rfl, by simp [Json.optionalField]⟩

/-- A saved game is spelled as the numbers of its snapshot are. -/
theorem spelledBy {p : String → Prop} {game : SavedGame} (hnode : ∀ n, p (Number.wholeText n))
    (hcontext : ∀ name x, game.snapshot.context.get? name = some (.number x) →
      Number.IsFinite x → p (Number.Layout.signed.render x)) : Json.SpelledBy p 3 game.toJson := by
  obtain ⟨fields, hfields, hvalue⟩ := game.exists_fields
  rw [hfields]
  refine .object fun field hfield => ?_
  rcases hvalue field hfield with ⟨s, hs⟩ | hsnapshot
  · rw [hs]
    exact .string s
  · rw [hsnapshot]
    exact Snapshot.spelledBy hnode hcontext

theorem spelled_toJson (game : SavedGame) : Json.Spelled game.toJson :=
  (spelledBy Json.numberLike_wholeText fun _ _ _ hfinite => hfinite.numberLike).spelled

theorem isOk_tokens?_toJson {game : SavedGame} (h : game.snapshot.ReadsBack) :
    (Json.tokens? game.toJson).isOk = true :=
  (spelledBy Json.isNumber_wholeText fun _ _ hget _ =>
    (h.context.isDouble hget).isNumber).isOk_tokens?

/-- A game whose numbers can be read back is read back from what it is saved as. -/
theorem ofText_text {game : SavedGame} (h : game.snapshot.ReadsBack) :
    ofText game.text = .ok game := by
  have hjson : Json.ofText game.toJson.pretty = .ok game.toJson :=
    (Json.ofText_pretty_eq_ok_iff game.spelled_toJson).2 ⟨isOk_tokens?_toJson h, rfl⟩
  rw [ofText, text, hjson]
  change ofJson game.toJson = .ok game
  rw [ofJson_toJson, Snapshot.ofJson_toJson_eq_ok_iff.2 h]
  rfl

/-- Where a game is read from what another is saved as, the snapshot of the one is read from that
of the other. -/
theorem ofJson_snapshot_of_ofText {game read : SavedGame} (h : ofText game.text = .ok read) :
    Snapshot.ofJson game.snapshot.toJson = .ok read.snapshot := by
  obtain ⟨json, hjson, h⟩ := Except.bind_eq_ok_iff.1 h
  obtain ⟨-, rfl⟩ := (Json.ofText_pretty_eq_ok_iff game.spelled_toJson).1 hjson
  rw [ofJson_toJson] at h
  obtain ⟨snapshot, hofJson, rfl⟩ := Except.map_eq_ok_iff.1 h
  exact hofJson

theorem readsBack_of_ofText {game read : SavedGame}
    (hdigits : game.snapshot.context.DigitsSuffice) (h : ofText game.text = .ok read) :
    game.snapshot.ReadsBack :=
  Snapshot.readsBack_of_ofJson_toJson hdigits (ofJson_snapshot_of_ofText h)

/-- Of what a game is saved as, its snapshot is read exactly if the numbers can be read back. -/
theorem exists_ofText_iff {game : SavedGame} :
    (∃ read, ofText game.text = .ok read ∧ read.snapshot = game.snapshot) ↔
      game.snapshot.ReadsBack := by
  constructor
  · rintro ⟨read, hread, hsnapshot⟩
    have hofJson := ofJson_snapshot_of_ofText hread
    rw [hsnapshot] at hofJson
    exact Snapshot.ofJson_toJson_eq_ok_iff.1 hofJson
  · intro h
    exact ⟨game, ofText_text h, rfl⟩

end Command.SavedGame

end Gamebook
