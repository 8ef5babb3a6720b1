import Gamebook.Proofs.Form.Spellings

/-! # Contexts that are written and read

Booleans and strings are always read back; a number is if it is finite and the reader finds it again
from its digits. `Context.ofJson_toJson_eq_ok_iff` says that a context is read back exactly if all
of its values are.
-/

namespace Gamebook

namespace NameMap

universe u

variable {α : Type u}

/-- A name after all others is put at the end. -/
theorem insertEntry_of_forall_lt {name : String} {value : α} {entries : List (String × α)}
    (h : ∀ entry ∈ entries, entry.1 < name) :
    insertEntry name value entries = entries ++ [(name, value)] := by
  induction entries with
  | nil => rfl
  | cons first rest ih =>
      have hfirst := h first List.mem_cons_self
      have hne : name ≠ first.1 := by
        rintro rfl
        exact String.lt_irrefl _ hfirst
      rw [insertEntry, if_neg (String.lt_asymm hfirst), if_neg hne,
        ih fun entry hentry => h entry (List.mem_cons_of_mem _ hentry)]
      rfl

/-- Entries that follow in order are put at the end as they are. -/
theorem entries_insertAll {map : NameMap α} {entries : List (String × α)}
    (h : (map.entries ++ entries).Pairwise fun a b => a.1 < b.1) :
    (map.insertAll entries).entries = map.entries ++ entries := by
  induction entries generalizing map with
  | nil => exact (List.append_nil _).symm
  | cons entry rest ih =>
      have hlt : ∀ before ∈ map.entries, before.1 < entry.1 := fun before hbefore =>
        (List.pairwise_append.1 h).2.2 before hbefore entry List.mem_cons_self
      have hinsert : (map.insert entry.1 entry.2).entries = map.entries ++ [entry] :=
        insertEntry_of_forall_lt hlt
      have hrest := @ih (map.insert entry.1 entry.2)
      rw [hinsert, List.append_assoc, List.singleton_append] at hrest
      exact hrest h

/-- A sorted list of entries is the list of the map that it fills. -/
theorem entries_ofList {entries : List (String × α)}
    (h : entries.Pairwise fun a b => a.1 < b.1) : (ofList entries).entries = entries :=
  entries_insertAll h

/-- The values that are found are those of the entries. -/
theorem get?_eq_some_iff {map : NameMap α} {name : String} {value : α} :
    map.get? name = some value ↔ (name, value) ∈ map.entries := by
  obtain ⟨entries, hsorted⟩ := map
  unfold get?
  dsimp only
  induction entries with
  | nil => simp
  | cons first rest ih =>
      obtain ⟨hfirst, hrest⟩ := List.pairwise_cons.1 hsorted
      rw [lookup_cons_if, List.mem_cons]
      split
      next heq =>
        subst heq
        constructor
        · intro h
          cases h
          exact Or.inl rfl
        · rintro (h | h)
          · rw [← h]
          · exact absurd (hfirst _ h) (String.lt_irrefl _)
      next hne =>
        rw [ih hrest]
        constructor
        · exact Or.inr
        · rintro (h | h)
          · exact absurd (congrArg Prod.fst h) hne
          · exact h

end NameMap

namespace Number

/-- A double that the reader of JSON finds again from what it is written as. -/
def ReadsBack (x : Float) : Prop :=
  (Json.Numeral.ofText? (Layout.signed.render x).toList).bind Json.Numeral.toFloat? = some x

/-- A finite double. -/
def IsFinite (x : Float) : Prop :=
  ∃ negative mantissa exponent, Binary.ofFloat x = .finite negative mantissa exponent

theorem IsFinite.numberLike {x : Float} (h : IsFinite x) :
    Json.NumberLike (Layout.signed.render x) := by
  obtain ⟨negative, mantissa, exponent, hfinite⟩ := h
  exact Json.numberLike_render hfinite

theorem ReadsBack.isDouble {x : Float} (h : ReadsBack x) (hfinite : IsFinite x) :
    Json.IsDouble (Layout.signed.render x) :=
  ⟨hfinite.numberLike, Option.isSome_iff_exists.2 ⟨x, h⟩⟩

end Number

namespace Value

/-- A value is spelled as its number is, if it is a finite one. -/
theorem spelledBy {p : String → Prop} {depth : Nat} {value : Value}
    (h : ∀ x, value = .number x → Number.IsFinite x → p (Number.Layout.signed.render x)) :
    Json.SpelledBy p depth value.toJson := by
  cases value with
  | boolean b => exact .boolean b
  | string s => exact .string s
  | number x =>
      rw [toJson, Json.ofFloat]
      cases hbinary : Number.Binary.ofFloat x with
      | finite negative mantissa exponent =>
          exact .number (h x rfl ⟨negative, mantissa, exponent, hbinary⟩)
      | infinite negative => exact .null
      | nan => exact .null

/-- A value is read back unless it is a number that is not finite or not found again. -/
theorem ofJson_toJson_eq_ok_iff {value : Value} :
    ofJson value.toJson = .ok value ↔
      ∀ x, value = .number x → Number.IsFinite x ∧ Number.ReadsBack x := by
  cases value with
  | boolean b => simp [toJson, ofJson]
  | string s => simp [toJson, ofJson]
  | number x =>
      simp only [number.injEq, forall_eq']
      unfold Number.IsFinite Number.ReadsBack
      rw [toJson, Json.ofFloat]
      cases hbinary : Number.Binary.ofFloat x with
      | finite negative mantissa exponent =>
          simp only [ofJson, Json.asFloat]
          generalize (Json.Numeral.ofText? _).bind _ = found
          cases found <;> simp [Except.map]
      | infinite negative => simp [ofJson, Json.asFloat, Except.map]
      | nan => simp [ofJson, Json.asFloat, Except.map]

/-- Whatever is read for a value is of its kind. -/
theorem kind_of_ofJson_toJson {value read : Value} (h : ofJson value.toJson = .ok read) :
    read.kind = value.kind := by
  cases value with
  | boolean b =>
      cases h
      rfl
  | string s =>
      cases h
      rfl
  | number x =>
      have hnumber : (Json.ofFloat x).asFloat.map number = .ok read := by
        rw [← h, toJson, Json.ofFloat]
        split <;> rfl
      obtain ⟨y, -, rfl⟩ := Except.map_eq_ok_iff.1 hnumber
      rfl

/-- A number that anything is read back for is finite. -/
theorem isFinite_of_ofJson_toJson {x : Float} {read : Value}
    (h : ofJson (number x).toJson = .ok read) : Number.IsFinite x := by
  rw [toJson, Json.ofFloat] at h
  cases hbinary : Number.Binary.ofFloat x with
  | finite negative mantissa exponent => exact ⟨negative, mantissa, exponent, hbinary⟩
  | infinite negative =>
      rw [hbinary] at h
      cases h
  | nan =>
      rw [hbinary] at h
      cases h

end Value

namespace Context

/-- A context is spelled as its finite numbers are. -/
theorem spelledBy {p : String → Prop} {depth : Nat} {context : Context}
    (h : ∀ name x, context.get? name = some (.number x) → Number.IsFinite x →
      p (Number.Layout.signed.render x)) : Json.SpelledBy p (depth + 1) context.toJson := by
  refine .object fun field hfield => ?_
  obtain ⟨⟨name, value⟩, hentry, rfl⟩ := List.mem_map.1 hfield
  refine Value.spelledBy fun x hx => ?_
  subst hx
  exact h name x (NameMap.get?_eq_some_iff.2 hentry)

/-- Reads one field as an entry. -/
def entryOfField (field : String × Json) : Except Json.Failure (String × Value) :=
  (Value.ofJson field.2).map fun value => (field.1, value)

theorem ofJson_object (fields : List (String × Json)) :
    ofJson (.object fields) = (fields.mapM entryOfField).map NameMap.ofList := by
  have hentry : (fun field => do return (field.1, ← Value.ofJson field.2)) = entryOfField := by
    funext field
    dsimp only [entryOfField]
    cases Value.ofJson field.2 <;> rfl
  change (do return NameMap.ofList (← fields.mapM _)) = _
  rw [hentry]
  cases fields.mapM entryOfField <;> rfl

/-- Reading fields as entries keeps their names. -/
theorem names_of_mapM_entryOfField {fields : List (String × Json)}
    {entries : List (String × Value)} (h : fields.mapM entryOfField = .ok entries) :
    entries.map Prod.fst = fields.map Prod.fst := by
  induction fields generalizing entries with
  | nil =>
      cases h
      rfl
  | cons field rest ih =>
      rw [List.mapM_cons] at h
      obtain ⟨entry, hentry, h⟩ := Except.bind_eq_ok_iff.1 h
      obtain ⟨others, hothers, h⟩ := Except.bind_eq_ok_iff.1 h
      cases h
      obtain ⟨value, -, rfl⟩ := Except.map_eq_ok_iff.1 hentry
      rw [List.map_cons, List.map_cons, ih hothers]

theorem entryOfField_eq_ok_iff {name : String} {value : Value} :
    entryOfField (name, value.toJson) = .ok (name, value) ↔
      Value.ofJson value.toJson = .ok value := by
  simp [entryOfField, Except.map_eq_ok_iff]

/-- Entries are read back exactly if each of their values is. -/
theorem mapM_entryOfField_eq_ok_iff {entries : List (String × Value)} :
    (entries.map fun (name, value) => (name, value.toJson)).mapM entryOfField = .ok entries ↔
      ∀ entry ∈ entries, Value.ofJson entry.2.toJson = .ok entry.2 := by
  rw [Except.mapM_map_eq_ok_iff]
  exact forall₂_congr fun _ _ => entryOfField_eq_ok_iff

/-- A context in which every number is finite and found again from its digits. -/
def ReadsBack (context : Context) : Prop :=
  ∀ name x, context.get? name = some (.number x) → Number.IsFinite x ∧ Number.ReadsBack x

theorem ReadsBack.isDouble {context : Context} (h : context.ReadsBack) {name : String} {x : Float}
    (hget : context.get? name = some (.number x)) :
    Json.IsDouble (Number.Layout.signed.render x) :=
  (h name x hget).2.isDouble (h name x hget).1

theorem forall_ofJson_toJson_iff {context : Context} :
    (∀ entry ∈ context.entries, Value.ofJson entry.2.toJson = .ok entry.2) ↔
      context.ReadsBack := by
  simp only [Value.ofJson_toJson_eq_ok_iff]
  constructor
  · intro h name x hget
    exact h (name, .number x) (NameMap.get?_eq_some_iff.1 hget) x rfl
  · rintro h ⟨name, value⟩ hentry x rfl
    exact h name x (NameMap.get?_eq_some_iff.2 hentry)

/-- The entries that are read for a context come in order, so that the map lists them as they were
read. -/
theorem entries_ofList_of_mapM {context : Context} {entries : List (String × Value)}
    (h : (context.entries.map fun (name, value) => (name, value.toJson)).mapM entryOfField =
      .ok entries) : (NameMap.ofList entries).entries = entries := by
  have hnames : entries.map Prod.fst = context.entries.map Prod.fst := by
    rw [names_of_mapM_entryOfField h, List.map_map]
    rfl
  have hsorted : entries.Pairwise fun a b => a.1 < b.1 := by
    rw [← List.pairwise_map, hnames, List.pairwise_map]
    exact context.sorted
  exact NameMap.entries_ofList hsorted

/-- A context is read back exactly if all of its numbers are. -/
theorem ofJson_toJson_eq_ok_iff {context : Context} :
    ofJson context.toJson = .ok context ↔ context.ReadsBack := by
  rw [← forall_ofJson_toJson_iff, toJson, ofJson_object, Except.map_eq_ok_iff,
    ← mapM_entryOfField_eq_ok_iff]
  constructor
  · rintro ⟨entries, hentries, hcontext⟩
    rw [hentries, ← hcontext, entries_ofList_of_mapM hentries]
  · intro hentries
    exact ⟨context.entries, hentries, NameMap.ext (NameMap.entries_ofList context.sorted)⟩

/-- The variables of a context with the kinds of their values. -/
def kinds (context : Context) : List (String × Value.Kind) :=
  context.entries.map (Prod.map id Value.kind)

/-- Whatever is read for a context has its variables with values of the same kinds. -/
theorem kinds_of_ofJson_toJson {context read : Context} (h : ofJson context.toJson = .ok read) :
    read.kinds = context.kinds := by
  rw [toJson, ofJson_object] at h
  obtain ⟨entries, hentries, rfl⟩ := Except.map_eq_ok_iff.1 h
  rw [kinds, kinds, entries_ofList_of_mapM hentries]
  have hread := Except.forall₂_of_mapM hentries
  rw [List.forall₂_map_left_iff] at hread
  rw [← List.forall₂_eq_eq_eq, List.forall₂_map_left_iff, List.forall₂_map_right_iff]
  refine hread.flip.imp fun entry own hentry => ?_
  obtain ⟨value, hvalue, rfl⟩ := Except.map_eq_ok_iff.1 hentry
  exact congrArg (Prod.mk own.1) (Value.kind_of_ofJson_toJson hvalue)

/-- A context in which every number that is finite is found again from its digits. -/
def DigitsSuffice (context : Context) : Prop :=
  ∀ name x, context.get? name = some (.number x) → Number.IsFinite x → Number.ReadsBack x

/-- Where digits suffice, a context that anything is read back for is read back as it is. -/
theorem readsBack_of_ofJson_toJson {context read : Context} (hdigits : context.DigitsSuffice)
    (h : ofJson context.toJson = .ok read) : context.ReadsBack := by
  intro name x hget
  rw [toJson, ofJson_object] at h
  obtain ⟨entries, hentries, -⟩ := Except.map_eq_ok_iff.1 h
  have hfield : (name, (Value.number x).toJson) ∈
      context.entries.map fun (name, value) => (name, value.toJson) :=
    List.mem_map.2 ⟨(name, .number x), NameMap.get?_eq_some_iff.1 hget, rfl⟩
  obtain ⟨entry, hentry⟩ := Except.exists_of_mem_of_mapM hentries hfield
  obtain ⟨value, hvalue, -⟩ := Except.map_eq_ok_iff.1 hentry
  have hfinite := Value.isFinite_of_ofJson_toJson hvalue
  exact ⟨hfinite, hdigits name x hget hfinite⟩

/-- A variable that holds an infinity is written as nothing, and nothing is no number. -/
example : ofJson (toJson (.ofList [("x", .number Number.infinity)])) =
    .error (.wrongForm "a number") := by
  cbv

end Context

end Gamebook
