import Gamebook.Proofs.Files.Sites

/-! # Paths from the root

The path from the root to a file is made of the names that lead to it. `siteOf_rooted` says that its
site is the location that these names are, and `canonical_of_canonical` that it is its own path from
the root.
-/

namespace Gamebook

namespace Path

/-- The parts of a path have no slash. -/
theorem slash_notMem_of_mem_parts {path part : List Char} (h : part ∈ parts path) :
    '/' ∉ part := by
  induction path generalizing part with
  | nil =>
      cases List.mem_singleton.1 h
      exact List.not_mem_nil
  | cons c rest ih =>
      rw [parts] at h
      split at h
      · rcases List.mem_cons.1 h with rfl | h
        · exact List.not_mem_nil
        · exact ih h
      next hc =>
        split at h
        next first others hparts =>
          rw [hparts] at ih
          rcases List.mem_cons.1 h with rfl | h
          · have hfirst := ih List.mem_cons_self
            simp [hfirst, Ne.symm hc]
          · exact ih (List.mem_cons_of_mem _ h)
        next =>
          cases List.mem_singleton.1 h
          simp [Ne.symm hc]

/-- A name in front of a path belongs to its first part. -/
theorem parts_append {name : List Char} (h : '/' ∉ name) (rest : List Char) :
    parts (name ++ '/' :: rest) = name :: parts rest := by
  induction name with
  | nil => rfl
  | cons c name ih =>
      rw [List.mem_cons, not_or] at h
      rw [List.cons_append, parts, if_neg (Ne.symm h.1), ih h.2]

theorem parts_of_notMem {name : List Char} (h : '/' ∉ name) : parts name = [name] := by
  induction name with
  | nil => rfl
  | cons c name ih =>
      rw [List.mem_cons, not_or] at h
      rw [parts, if_neg (Ne.symm h.1), ih h.2]

end Path

/-- A name that a file or directory can have. -/
structure IsFileName (name : String) : Prop where
  not_special : FileStore.isSpecial name = false
  no_slash : '/' ∉ name.toList

namespace FileStore

variable {store : FileStore} {location : Location}

/-- The working directory is given by names of directories. -/
def Named (store : FileStore) : Prop :=
  ∀ name ∈ store.current, IsFileName name

/-- The parts of names with slashes between them are the names. -/
theorem parts_intercalate (h : ∀ name ∈ location, IsFileName name) (hne : location ≠ []) :
    (Path.parts ("/".intercalate location).toList).map String.ofList = location := by
  induction location with
  | nil => exact absurd rfl hne
  | cons name rest ih =>
      have hname := (h name List.mem_cons_self).no_slash
      cases rest with
      | nil =>
          rw [String.intercalate_singleton, Path.parts_of_notMem hname, List.map_singleton,
            String.ofList_toList]
      | cons next rest =>
          have hrest := ih (fun other hother => h other (List.mem_cons_of_mem _ hother))
            (List.cons_ne_nil _ _)
          rw [String.intercalate_cons_cons, String.toList_append, String.toList_append,
            List.append_assoc]
          change (Path.parts (name.toList ++ '/' :: ("/".intercalate (next :: rest)).toList)).map
            String.ofList = _
          rw [Path.parts_append hname, List.map_cons, hrest, String.ofList_toList]

/-- Names are followed one after the other. -/
theorem foldl_nextLocation_append (h : ∀ name ∈ location, IsFileName name) (start : Location) :
    location.foldl nextLocation start = start ++ location := by
  induction location generalizing start with
  | nil => exact (List.append_nil start).symm
  | cons name rest ih =>
      rw [List.foldl_cons, nextLocation_of_isSpecial (h name List.mem_cons_self).not_special,
        ih fun other hother => h other (List.mem_cons_of_mem _ hother), List.append_assoc]
      rfl

/-- The site of the path from the root is the location that it was made from. -/
theorem siteOf_rooted (h : ∀ name ∈ location, IsFileName name) :
    store.siteOf ("/" ++ "/".intercalate location) = location := by
  have hrooted : Path.isRooted ("/" ++ "/".intercalate location).toList = true := by
    rw [String.toList_append]
    rfl
  have hparts : Path.parts ("/" ++ "/".intercalate location).toList =
      [] :: Path.parts ("/".intercalate location).toList := by
    rw [String.toList_append]
    rfl
  rw [siteOf, origin, if_pos hrooted, hparts]
  by_cases hne : location = []
  · subst hne
    rfl
  · rw [List.map_cons, parts_intercalate h hne, List.foldl_cons]
    exact foldl_nextLocation_append h []

theorem isFileName_of_mem_nextLocation {part : String}
    (hlocation : ∀ name ∈ location, IsFileName name) (hpart : '/' ∉ part.toList) :
    ∀ name ∈ nextLocation location part, IsFileName name := by
  unfold nextLocation
  split
  · exact hlocation
  next hstay =>
    split
    · exact fun name hname => hlocation name (List.dropLast_subset location hname)
    next hup =>
      intro name hname
      rcases List.mem_append.1 hname with hname | hname
      · exact hlocation name hname
      · cases List.mem_singleton.1 hname
        exact ⟨by simp [isSpecial, hup, not_or.1 hstay], hpart⟩

/-- Where a path leads there are only names. -/
theorem isFileName_of_mem_siteOf (hnamed : store.Named) {path name : String}
    (h : name ∈ store.siteOf path) : IsFileName name := by
  have horigin : ∀ name ∈ store.origin path, IsFileName name := by
    unfold origin
    split
    · intro name hmem
      cases hmem
    · exact hnamed
  have hparts : ∀ part ∈ (Path.parts path.toList).map String.ofList, '/' ∉ part.toList := by
    intro part hpart
    obtain ⟨chars, hchars, rfl⟩ := List.mem_map.1 hpart
    rw [String.toList_ofList]
    exact Path.slash_notMem_of_mem_parts hchars
  unfold siteOf at h
  generalize store.origin path = start at h horigin
  generalize (Path.parts path.toList).map String.ofList = parts at h hparts
  induction parts generalizing start with
  | nil => exact horigin name h
  | cons part rest ih =>
      obtain ⟨hpart, hrest⟩ := List.forall_mem_cons.1 hparts
      exact ih (nextLocation start part) (isFileName_of_mem_nextLocation horigin hpart) h hrest

/-- The path from the root to a file is its own path from the root. -/
theorem canonical_of_canonical (hnamed : store.Named) {given path : String} {content : ByteArray}
    (h : store.canonical given = .ok path) (hread : store.read path = .ok content) :
    store.canonical path = .ok path := by
  obtain ⟨location, hlocate, hpath⟩ := Except.bind_eq_ok_iff.1 h
  have hnames : ∀ name ∈ location, IsFileName name := by
    intro name hname
    rw [eq_siteOf_of_locate hlocate] at hname
    exact isFileName_of_mem_siteOf hnamed hname
  obtain ⟨again, hagain, -⟩ := read_eq_ok_iff.1 hread
  -- Both walks end at their sites, and the site of the names is the location they were taken from.
  have hsame : again = location := by
    rw [eq_siteOf_of_locate hagain, ← Except.ok.inj hpath, siteOf_rooted hnames]
  rw [hsame] at hagain
  exact Except.bind_eq_ok_iff.2 ⟨location, hagain, hpath⟩

end FileStore

end Gamebook
