import Gamebook.Proofs.Document.Outlines

/-! # Documents that are read

What can be relied on in a document that was read (`wellFormed_of_read`): its numbers are the order
of reading, its links are those of a tree, only elements that can hold nodes do, and ids and places
are what errors and triggers need them to be.
-/

namespace Gamebook.Document

/-- The shape of a document that was read. -/
structure WellFormed (d : Document) : Prop where
  /-- The walk from the root lists the numbers from zero on, without a gap. -/
  walk : (d.descendants d.root).map Fin.val = List.range d.size
  /-- Only the first node is the whole gamebook. -/
  quest_iff : ∀ r, d.tag r = .quest ↔ r.val = 0
  /-- Only the first node stands in no other. -/
  parent?_eq_none_iff : ∀ r, d.parent? r = none ↔ r.val = 0
  /-- Any other node has a parent with a smaller number, which lists it once. -/
  exists_parent : ∀ r : d.Ref, r.val ≠ 0 →
    ∃ p, d.parent? r = some p ∧ p.val < r.val ∧ (d.children p).count r = 1
  /-- Children are listed in increasing order. -/
  children_increasing : ∀ r, (d.children r).Pairwise (· < ·)
  /-- There are no nodes within texts, instructions, enemies and triggers. -/
  children_eq_nil : ∀ r, d.tag r ∈ [Tag.text, .instruction, .enemyLine, .trigger] →
    d.children r = []
  /-- An id stands for one node. -/
  eq_of_id? : ∀ r s id, (d.node r).id? = some id → (d.node s).id? = some id → r = s
  /-- Every node has its place in the text. -/
  span_isSome : ∀ r, (d.node r).span.isSome = true

variable {d : Document}

/-- No id is repeated exactly if the ids differ from one another and from those seen before. -/
theorem repeatedId?_eq_none_iff {seen : List String} {nodes : List Node} :
    repeatedId? seen nodes = none ↔
      (nodes.filterMap Node.id?).Nodup ∧ ∀ id ∈ nodes.filterMap Node.id?, id ∉ seen := by
  induction nodes generalizing seen with
  | nil => simp [repeatedId?]
  | cons node rest ih =>
      rw [repeatedId?]
      cases hid : node.id? with
      | none =>
          rw [List.filterMap_cons_none hid]
          exact ih
      | some id =>
          dsimp only
          rw [List.filterMap_cons_some hid, List.nodup_cons, List.forall_mem_cons]
          by_cases hseen : id ∈ seen
          · simp [hseen]
          · -- An id that is new is seen by all nodes behind.
            rw [if_neg (by simpa using hseen), ih]
            constructor
            · rintro ⟨hnodup, hrest⟩
              refine ⟨⟨?_, hnodup⟩, hseen, ?_⟩
              · intro hmem
                exact hrest id hmem List.mem_cons_self
              · intro other hmem hother
                exact hrest other hmem (List.mem_cons_of_mem _ hother)
            · rintro ⟨⟨hnew, hnodup⟩, -, hrest⟩
              refine ⟨hnodup, ?_⟩
              intro other hmem hother
              rcases List.mem_cons.1 hother with rfl | hother
              · exact hnew hmem
              · exact hrest other hmem hother

theorem eq_of_id?_of_nodup (h : ((d.refs.map d.node).filterMap Node.id?).Nodup) {r s : d.Ref}
    {id : String} (hr : (d.node r).id? = some id) (hs : (d.node s).id? = some id) : r = s := by
  unfold List.Nodup at h
  rw [List.pairwise_filterMap, List.pairwise_map] at h
  have hdiffer (a b : d.Ref) (hlt : a < b) :
      ¬ ((d.node a).id? = some id ∧ (d.node b).id? = some id) := by
    rintro ⟨ha, hb⟩
    have hpair := List.pairwise_iff_getElem.1 h a b (by simp [refs]) (by simp [refs]) hlt
    exact hpair id (by simpa [refs] using ha) id (by simpa [refs] using hb) rfl
  rcases Nat.lt_trichotomy r.val s.val with hlt | heq | hlt
  · exact absurd ⟨hr, hs⟩ (hdiffer r s hlt)
  · exact Fin.ext heq
  · exact absurd ⟨hs, hr⟩ (hdiffer s r hlt)

/-- A document that was read is a tree whose numbers are the order of reading. -/
theorem wellFormed_of_read {text : String} (h : read text = .ok d) : d.WellFormed where
  walk := by
    rw [descendants_root (inReadingOrder_of_read h)]
    exact List.map_coe_finRange_eq_range
  quest_iff r := by
    constructor
    · intro hquest
      by_contra hne
      exact (isWithin_of_read h fun heq => hne (congrArg Fin.val heq)).not_quest hquest
    · intro hzero
      have hroot : r = d.root := Fin.ext hzero
      rw [hroot]
      exact (root_of_read h).1
  parent?_eq_none_iff r := by
    rw [Document.parent?_eq_none_iff, Fin.ext_iff]
    rfl
  exists_parent r hne := by
    obtain ⟨p, hp⟩ := Option.ne_none_iff_exists'.1 fun hnone =>
      hne (congrArg Fin.val (Document.parent?_eq_none_iff.1 hnone))
    refine ⟨p, hp, d.parent?_lt hp, ?_⟩
    apply List.count_eq_one_of_mem
    · exact (pairwise_lt_children p).imp ne_of_lt
    · exact d.mem_children_iff.2 hp
  children_increasing := pairwise_lt_children
  children_eq_nil r htag := by
    rw [List.eq_nil_iff_forall_not_mem]
    intro child hchild
    have hparent := d.mem_children_iff.1 hchild
    have hne : child ≠ d.root := by
      rintro rfl
      rw [Document.parent?_eq_none_iff.2 rfl] at hparent
      cases hparent
    obtain ⟨around, haround, hleaf⟩ := (isWithin_of_read h hne).outer_not_leaf
    rw [outerNode?, hparent, Option.map_some, Option.some.injEq] at haround
    subst haround
    change (d.tag r).isLeaf = false at hleaf
    simp only [List.mem_cons, List.not_mem_nil, or_false] at htag
    rcases htag with htag | htag | htag | htag
    all_goals
      rw [htag] at hleaf
      cases hleaf
  eq_of_id? r s id := by
    obtain ⟨-, -, -, -, -, hids⟩ := exists_outline_of_read h
    rw [descendants_root (inReadingOrder_of_read h), repeatedId?_eq_none_iff] at hids
    exact eq_of_id?_of_nodup hids.1
  span_isSome r := by
    by_cases hroot : r = d.root
    · rw [hroot]
      exact (root_of_read h).2
    · exact (isWithin_of_read h hroot).has_span

/-- A card with loose text, a choice that leads into a combat, and a trigger behind the card. -/
def cellar : String :=
  "<quest><roleplay id='a'>dark<p>and <b>cold</b></p><choice text='in'><combat id='b'>" ++
    "<e>Rat</e></combat></choice></roleplay><trigger>goto b</trigger></quest>"

/-- The walk through the cellar is the order of its opening tags, and the id `b` stands for the
combat alone. -/
theorem wellFormed_of_read_cellar :
    ∃ d, read cellar = .ok d ∧ d.size = 8 ∧
      d.refs.map (fun r => (d.parent? r).map Fin.val) =
        [none, some 0, some 1, some 1, some 1, some 4, some 5, some 0] ∧
      (d.descendants d.root).map Fin.val = [0, 1, 2, 3, 4, 5, 6, 7] ∧
      ∀ r : d.Ref, (d.node r).id? = some "b" → r.val = 5 := by
  have hresult : (read cellar).toOption.map (fun d =>
      (d.size, d.refs.map (fun r => (d.parent? r).map Fin.val),
        (d.ref? 5).bind fun r => (d.node r).id?)) =
      some (8, [none, some 0, some 1, some 1, some 1, some 4, some 5, some 0], some "b") := by
    decide +kernel
  cases hread : read cellar with
  | error fault =>
      rw [hread] at hresult
      cases hresult
  | ok d =>
      rw [hread] at hresult
      obtain ⟨hsize, hresult⟩ := Prod.mk.inj (Option.some.inj hresult)
      obtain ⟨hparents, hid⟩ := Prod.mk.inj hresult
      have hd := wellFormed_of_read hread
      refine ⟨d, rfl, hsize, hparents, ?_, ?_⟩
      · rw [hd.walk, hsize]
        rfl
      · intro r hr
        obtain ⟨combat, hcombat, hid⟩ := Option.bind_eq_some_iff.1 hid
        rw [hd.eq_of_id? r combat "b" hr hid]
        unfold ref? at hcombat
        split at hcombat
        · cases hcombat
          rfl
        · cases hcombat

end Gamebook.Document
