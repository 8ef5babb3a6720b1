import Gamebook.Form.Step
import Gamebook.Proofs.Form.Numbers
import Gamebook.Proofs.Json.RoundTrip
import Gamebook.Proofs.Number.Magnitude

/-! # Forms and the spelling of their numbers

What a form writes can be read back as far as its numbers can. `SpelledBy` says of a JSON value that
its numbers are spelled with some property and how deep it is nested; a form proves it once, and
whatever is asked of its text follows from what is asked of its numbers.
-/

namespace Gamebook.Json

/-- A value with at most `depth` levels of arrays and objects, in which everything has a spelling,
and the spellings of numbers have a property. -/
inductive SpelledBy (p : String → Prop) : Nat → Json → Prop where
  | null {depth : Nat} : SpelledBy p depth .null
  | boolean {depth : Nat} (b : Bool) : SpelledBy p depth (.boolean b)
  | number {depth : Nat} {literal : String} (h : p literal) : SpelledBy p depth (.number literal)
  | string {depth : Nat} (s : String) : SpelledBy p depth (.string s)
  | array {depth : Nat} {items : List Json} (h : ∀ item ∈ items, SpelledBy p depth item) :
    SpelledBy p (depth + 1) (.array items)
  | object {depth : Nat} {fields : List (String × Json)}
    (h : ∀ field ∈ fields, SpelledBy p depth field.2) : SpelledBy p (depth + 1) (.object fields)

/-- A literal that is a number. -/
structure IsNumber (literal : String) : Prop where
  numberLike : NumberLike literal
  isSome_ofText? : (Numeral.ofText? literal.toList).isSome

/-- A literal that stands for a double. -/
structure IsDouble (literal : String) : Prop where
  numberLike : NumberLike literal
  isSome_toFloat? : ((Numeral.ofText? literal.toList).bind Numeral.toFloat?).isSome

theorem IsDouble.isNumber {literal : String} (h : IsDouble literal) : IsNumber literal := by
  obtain ⟨x, hx⟩ := Option.isSome_iff_exists.1 h.isSome_toFloat?
  obtain ⟨numeral, hnumeral, -⟩ := Option.bind_eq_some_iff.1 hx
  exact ⟨h.numberLike, by rw [hnumeral]; rfl⟩

theorem isNumber_wholeText (n : Nat) : IsNumber (Number.wholeText n) :=
  ⟨numberLike_wholeText n, by rw [ofText?_wholeText]; rfl⟩

theorem isNumber_signedText (n : Int) : IsNumber (Number.signedText n) :=
  ⟨numberLike_signedText n, by rw [ofText?_signedText]; rfl⟩

/-- A whole number of sixty-four bits stands for a double. -/
theorem isDouble_wholeText {n : Nat} (h : n < Number.wordBound) :
    IsDouble (Number.wholeText n) := by
  refine ⟨numberLike_wholeText n, ?_⟩
  rw [ofText?_wholeText, Option.bind_some]
  exact isSome_toFloat?_whole h

namespace SpelledBy

variable {p q : String → Prop} {depth : Nat} {json : Json}

theorem mono (h : SpelledBy p depth json) (hpq : ∀ literal, p literal → q literal) :
    SpelledBy q depth json := by
  induction h with
  | null => exact .null
  | boolean b => exact .boolean b
  | number h => exact .number (hpq _ h)
  | string s => exact .string s
  | array _ ih => exact .array ih
  | object _ ih => exact .object ih

theorem spelled (h : SpelledBy NumberLike depth json) : Spelled json := by
  induction h with
  | null => exact .null
  | boolean b => exact .boolean b
  | number h => exact .number h
  | string s => exact .string s
  | array _ ih => exact .array ih
  | object _ ih => exact .object ih

theorem isOk_tokens? (h : SpelledBy IsNumber depth json) : (tokens? json).isOk = true := by
  induction h with
  | null => rfl
  | boolean b => rfl
  | number h => exact isOk_tokens?_number h.isSome_ofText?
  | string s => rfl
  | array _ ih => exact isOk_tokens?_array ih
  | object _ ih => exact isOk_tokens?_object ih

theorem arePlain_of_forall {items : List Json} (h : ∀ item ∈ items, item.isPlain depth = true) :
    arePlain depth items = true := by
  induction items with
  | nil => rfl
  | cons item rest ih =>
      obtain ⟨hitem, hrest⟩ := List.forall_mem_cons.1 h
      rw [arePlain, hitem, ih hrest]
      rfl

theorem arePlainFields_of_forall {fields : List (String × Json)}
    (h : ∀ field ∈ fields, field.2.isPlain depth = true) : arePlainFields depth fields = true := by
  induction fields with
  | nil => rfl
  | cons field rest ih =>
      obtain ⟨hfield, hrest⟩ := List.forall_mem_cons.1 h
      rw [arePlainFields, hfield, ih hrest]
      rfl

/-- A value that is nested less deeply than the limit can be looked at as a whole. -/
theorem isPlain (h : SpelledBy IsDouble depth json) {limit : Nat} (hle : depth ≤ limit) :
    json.isPlain limit = true := by
  induction h generalizing limit with
  | null => rfl
  | boolean b => rfl
  | number h => exact h.isSome_toFloat?
  | string s => rfl
  | array _ ih =>
      rw [Json.isPlain, arePlain_of_forall fun item hitem => ih item hitem (by omega)]
      simp
      omega
  | object _ ih =>
      rw [Json.isPlain, arePlainFields_of_forall fun field hfield => ih field hfield (by omega)]
      simp
      omega

theorem ofOption_string (s : Option String) : SpelledBy p depth (.ofOption .string s) := by
  cases s with
  | none => exact .null
  | some s => exact .string s

theorem optionalField {α : Type} {name : String} {write : α → Json} {value : Option α}
    (h : ∀ a, SpelledBy p depth (write a)) :
    ∀ field ∈ Json.optionalField name write value, SpelledBy p depth field.2 := by
  cases value with
  | none => simp [Json.optionalField]
  | some a => simpa [Json.optionalField] using h a

/-- A record is spelled as the values of its fields are. -/
theorem of_pairs {fields : List (String × Json)} (h : List.Forall (SpelledBy p depth ·.2) fields) :
    SpelledBy p (depth + 1) (.object fields) :=
  .object (List.forall_iff_forall_mem.1 h)

/-- A list of records is spelled as each of them is. -/
theorem of_map {α : Type} {write : α → Json} {items : List α}
    (h : ∀ item ∈ items, SpelledBy p depth (write item)) :
    SpelledBy p (depth + 1) (.array (items.map write)) := by
  refine .array fun json hjson => ?_
  obtain ⟨item, hitem, rfl⟩ := List.mem_map.1 hjson
  exact h item hitem

end SpelledBy

/-! ## Forms that are written and read -/

section Reread

variable {α : Type} {write : α → Json} {read : Json → Except Failure α} {a b : α} {depth : Nat}

/-- What is read from the text that something is written as. -/
def reread (write : α → Json) (read : Json → Except Failure α) (a : α) : Except Failure α :=
  (ofText (write a).compact).bind read

/-- Where the literals of a written value are numbers, the value is read as if there were no text in
between. -/
theorem reread_of_spelledBy (h : SpelledBy IsNumber depth (write a)) :
    reread write read a = read (write a) := by
  have hspelled := (h.mono fun _ hliteral => hliteral.numberLike).spelled
  rw [reread, (ofText_compact_eq_ok_iff hspelled).2 ⟨h.isOk_tokens?, rfl⟩]
  rfl

theorem read_of_reread (h : SpelledBy NumberLike depth (write a))
    (hread : reread write read a = .ok b) : read (write a) = .ok b := by
  obtain ⟨json, hjson, hread⟩ := Except.bind_eq_ok_iff.1 hread
  obtain ⟨-, rfl⟩ := (ofText_compact_eq_ok_iff h.spelled).1 hjson
  exact hread

/-- Things that are read back are told apart by their texts. -/
theorem eq_of_compact_eq (ha : reread write read a = .ok a) (hb : reread write read b = .ok b)
    (h : (write a).compact = (write b).compact) : a = b := by
  have hsame : reread write read a = reread write read b := by
    rw [reread, reread, h]
  exact Except.ok.inj (ha.symm.trans (hsame.trans hb))

/-- A list is read from the array of what its items are written as exactly if each of them is. -/
theorem asListOf_map_eq_ok_iff {items : List α} :
    asListOf read (.array (items.map write)) = .ok items ↔
      ∀ item ∈ items, read (write item) = .ok item :=
  Except.mapM_map_eq_ok_iff

end Reread

end Gamebook.Json
