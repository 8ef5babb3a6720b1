/-! # Maps keyed by name

A `NameMap` lists its entries in strictly increasing order of their names, so two maps with the
same entries are equal and the order in which they were filled leaves no trace. Main statements:
`get?_insert_self` and `get?_insert_of_ne` say what an insertion does to look-ups.
-/

namespace Gamebook

universe u v

/-- A finite map from names to values, kept as a list that is sorted by name. -/
@[ext]
structure NameMap (α : Type u) where
  entries : List (String × α)
  sorted : entries.Pairwise fun a b => a.1 < b.1

namespace NameMap

variable {α : Type u} {β : Type v}

/-- Puts an entry into a sorted list, in place of the entry of the same name if there is one. -/
def insertEntry (name : String) (value : α) : List (String × α) → List (String × α)
  | [] => [(name, value)]
  | entry :: rest =>
    if name < entry.1 then (name, value) :: entry :: rest
    else if name = entry.1 then (name, value) :: rest
    else entry :: insertEntry name value rest

theorem mem_insertEntry {name : String} {value : α} {entry : String × α}
    {entries : List (String × α)} (h : entry ∈ insertEntry name value entries) :
    entry = (name, value) ∨ entry ∈ entries := by
  induction entries with
  | nil => exact Or.inl (List.mem_singleton.1 h)
  | cons first rest ih =>
    rw [insertEntry] at h
    split at h
    · exact List.mem_cons.1 h
    · split at h
      · exact (List.mem_cons.1 h).imp_right (List.mem_cons_of_mem _)
      · rcases List.mem_cons.1 h with rfl | hrest
        · exact Or.inr List.mem_cons_self
        · exact (ih hrest).imp_right (List.mem_cons_of_mem _)

theorem sorted_insertEntry (name : String) (value : α) {entries : List (String × α)}
    (h : entries.Pairwise fun a b => a.1 < b.1) :
    (insertEntry name value entries).Pairwise fun a b => a.1 < b.1 := by
  induction entries with
  | nil => exact List.pairwise_singleton _ _
  | cons first rest ih =>
    have hfirst := (List.pairwise_cons.1 h).1
    have hrest := (List.pairwise_cons.1 h).2
    rw [insertEntry]
    split
    · next hlt =>
      refine List.pairwise_cons.2 ⟨fun entry hentry => ?_, h⟩
      rcases List.mem_cons.1 hentry with rfl | hentry
      · exact hlt
      · exact String.lt_trans hlt (hfirst entry hentry)
    · next hlt =>
      split
      · next heq =>
        exact List.pairwise_cons.2 ⟨fun entry hentry => heq ▸ hfirst entry hentry, hrest⟩
      · next hne =>
        refine List.pairwise_cons.2 ⟨fun entry hentry => ?_, ih hrest⟩
        rcases mem_insertEntry hentry with rfl | hentry
        · rcases Std.lt_trichotomy name first.1 with h | h | h
          · exact absurd h hlt
          · exact absurd h hne
          · exact h
        · exact hfirst entry hentry

/-- The map without entries. -/
def empty : NameMap α := ⟨[], List.Pairwise.nil⟩

instance : Inhabited (NameMap α) := ⟨empty⟩

instance [BEq α] : BEq (NameMap α) := ⟨fun a b => a.entries == b.entries⟩

instance [DecidableEq α] : DecidableEq (NameMap α) := fun a b =>
  if h : a.entries = b.entries then isTrue (NameMap.ext h)
  else isFalse fun hab => h (congrArg entries hab)

/-- The map with `value` under `name`, whatever stood there before. -/
def insert (map : NameMap α) (name : String) (value : α) : NameMap α :=
  ⟨insertEntry name value map.entries, sorted_insertEntry name value map.sorted⟩

/-- The value under a name. -/
def get? (map : NameMap α) (name : String) : Option α :=
  map.entries.lookup name

/-- Whether the map has a value under the name. -/
def contains (map : NameMap α) (name : String) : Bool :=
  (map.get? name).isSome

/-- The number of entries. -/
def size (map : NameMap α) : Nat :=
  map.entries.length

/-- Whether the map has no entries. -/
def isEmpty (map : NameMap α) : Bool :=
  map.entries.isEmpty

/-- The names, in increasing order. -/
def names (map : NameMap α) : List String :=
  map.entries.map Prod.fst

/-- The map with further entries put in one after the other, so that the last of a name stays. -/
def insertAll (map : NameMap α) (entries : List (String × α)) : NameMap α :=
  entries.foldl (fun map entry => map.insert entry.1 entry.2) map

/-- The map that holds the last value given for each name. -/
def ofList (entries : List (String × α)) : NameMap α :=
  empty.insertAll entries

theorem lookup_cons_if (name : String) (entry : String × α) (rest : List (String × α)) :
    (entry :: rest).lookup name = if name = entry.1 then some entry.2 else rest.lookup name := by
  rw [List.lookup_cons]
  by_cases h : name = entry.1
  · rw [if_pos h, beq_iff_eq.2 h]
  · rw [if_neg h, beq_false_of_ne h]

theorem lookup_insertEntry (name other : String) (value : α) (entries : List (String × α)) :
    (insertEntry name value entries).lookup other =
      if other = name then some value else entries.lookup other := by
  induction entries with
  | nil => rw [insertEntry, lookup_cons_if]
  | cons first rest ih =>
    rw [insertEntry]
    split
    · rw [lookup_cons_if]
    · split
      · next heq =>
        rw [lookup_cons_if, lookup_cons_if]
        split
        · rfl
        · next hother => rw [if_neg fun h => hother (h.trans heq.symm)]
      · next hne =>
        rw [lookup_cons_if, lookup_cons_if, ih]
        split
        · next heq => rw [if_neg fun h => hne (h.symm.trans heq)]
        · rfl

/-- An insertion answers look-ups of its name with the new value and leaves the others alone. -/
theorem get?_insert (map : NameMap α) (name other : String) (value : α) :
    (map.insert name value).get? other = if other = name then some value else map.get? other :=
  lookup_insertEntry name other value map.entries

theorem get?_insert_self (map : NameMap α) (name : String) (value : α) :
    (map.insert name value).get? name = some value := by
  rw [get?_insert, if_pos rfl]

theorem get?_insert_of_ne {name other : String} (h : other ≠ name) (map : NameMap α) (value : α) :
    (map.insert name value).get? other = map.get? other := by
  rw [get?_insert, if_neg h]

end NameMap

end Gamebook
