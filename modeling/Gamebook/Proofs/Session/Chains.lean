import Mathlib.Data.List.Nodup
import Mathlib.Data.List.Perm.Subperm
import Gamebook.Proofs.Session.Endings

/-! # Chains of gotos

Play gives up on triggers after a fixed number of them. In a document with fewer triggers this tells
chains that come back to a trigger from all others, without a list of the triggers that were passed:
`followTriggers_of_chain` says that play gives up exactly on the former, and where it arrives on the
latter.
-/

namespace Gamebook.Document

variable {d : Document}

/-- The node that play goes on at from a trigger that goes on. -/
def goto? (d : Document) (r : d.Ref) : Option d.Ref :=
  if d.tag r = .trigger then
    match d.loadTrigger r with
    | .ok ⟨target, .goto⟩ => some target
    | _ => none
  else none

/-- The node that the gotos from a node lead to, one after the other, if there are so many. -/
def chain (d : Document) (r : d.Ref) : Nat → Option d.Ref
  | 0 => some r
  | n + 1 => (d.chain r n).bind d.goto?

/-- The triggers of a document. -/
def triggers (d : Document) : List d.Ref :=
  d.refs.filter fun r => d.tag r = .trigger

/-- The chain from a node comes to a trigger at two of its places. -/
def Revisits (d : Document) (r : d.Ref) : Prop :=
  ∃ i j s, i < j ∧ d.tag s = .trigger ∧ d.chain r i = some s ∧ d.chain r j = some s

/-- What play comes to at the last node of a chain: that node, the end of the quest, or the fault of
a trigger that cannot be followed. -/
inductive Arrives (d : Document) (last : d.Ref) : Except Fault (Option d.Ref) → Prop where
  | card (htag : d.tag last ≠ .trigger) : Arrives d last (.ok (some last))
  | finish (hend : (d.node last).isEndTrigger = true) : Arrives d last (.ok none)
  | fault {fault : Fault} (htag : d.tag last = .trigger)
      (hload : d.loadTrigger last = .error fault) : Arrives d last (.error fault)

theorem goto?_eq_some_iff {r next : d.Ref} :
    d.goto? r = some next ↔ d.tag r = .trigger ∧ d.loadTrigger r = .ok ⟨next, .goto⟩ := by
  unfold goto?
  split
  next htag =>
    rw [and_iff_right htag]
    split
    next target hload => simp [hload]
    next hload =>
      refine iff_of_false (by simp) ?_
      intro hgoto
      exact hload next hgoto
  next htag => simp [htag]

theorem mem_triggers {r : d.Ref} : r ∈ d.triggers ↔ d.tag r = .trigger := by
  simp [triggers, refs]

/-! ## Positions on a chain -/

theorem chain_add (r : d.Ref) (m n : Nat) :
    d.chain r (m + n) = (d.chain r m).bind fun s => d.chain s n := by
  induction n with
  | zero => cases d.chain r m <;> simp [chain]
  | succ n ih =>
      rw [← Nat.add_assoc, chain, ih, Option.bind_assoc]
      rfl

theorem exists_chain_of_le {r s : d.Ref} {m n : Nat} (h : d.chain r n = some s) (hle : m ≤ n) :
    ∃ t, d.chain r m = some t ∧ d.chain t (n - m) = some s := by
  rw [← Nat.add_sub_cancel' hle, chain_add] at h
  exact Option.bind_eq_some_iff.1 h

/-- All nodes of a chain but the last are triggers. -/
theorem tag_of_chain_of_lt {r s : d.Ref} {m n : Nat} (hn : d.chain r n ≠ none) (hlt : m < n)
    (hm : d.chain r m = some s) : d.tag s = .trigger := by
  obtain ⟨last, hlast⟩ := Option.ne_none_iff_exists'.1 hn
  obtain ⟨next, hnext, -⟩ := exists_chain_of_le hlast hlt
  rw [chain, hm, Option.bind_some] at hnext
  exact (goto?_eq_some_iff.1 hnext).1

/-- A chain that comes back to a node goes on forever. -/
theorem chain_ne_none_of_chain_eq {s : d.Ref} {period : Nat} (hpos : 0 < period)
    (h : d.chain s period = some s) (n : Nat) : d.chain s n ≠ none := by
  induction n using Nat.strongRecOn with
  | ind n ih =>
      rcases Nat.lt_or_ge n period with hlt | hge
      · obtain ⟨t, ht, -⟩ := exists_chain_of_le h (Nat.le_of_lt hlt)
        simp [ht]
      · rw [← Nat.add_sub_cancel' hge, chain_add, h, Option.bind_some]
        exact ih (n - period) (by omega)

theorem chain_ne_none_of_revisits {r : d.Ref} (h : d.Revisits r) (n : Nat) :
    d.chain r n ≠ none := by
  obtain ⟨i, j, s, hlt, -, hi, hj⟩ := h
  obtain ⟨t, ht, hback⟩ := exists_chain_of_le hj (Nat.le_of_lt hlt)
  rw [hi, Option.some.injEq] at ht
  subst ht
  rcases Nat.le_total n i with hle | hge
  · obtain ⟨u, hu, -⟩ := exists_chain_of_le hi hle
    simp [hu]
  · rw [← Nat.add_sub_cancel' hge, chain_add, hi, Option.bind_some]
    exact chain_ne_none_of_chain_eq (Nat.sub_pos_of_lt hlt) hback (n - i)

/-- A chain that comes to no trigger twice passes no more triggers than there are. -/
theorem le_length_triggers_of_not_revisits {r : d.Ref} {n : Nat} (h : ¬ d.Revisits r)
    (htriggers : ∀ i < n, ∃ s, d.chain r i = some s ∧ d.tag s = .trigger) :
    n ≤ d.triggers.length := by
  let passed : List (Option d.Ref) := (List.range n).map (d.chain r)
  have hnodup : passed.Nodup := by
    refine List.Nodup.map_on ?_ List.nodup_range
    intro i hi j hj heq
    obtain ⟨s, hs, htag⟩ := htriggers i (List.mem_range.1 hi)
    rcases Nat.lt_trichotomy i j with hlt | hsame | hgt
    · exact absurd ⟨i, j, s, hlt, htag, hs, heq ▸ hs⟩ h
    · exact hsame
    · exact absurd ⟨j, i, s, hgt, htag, heq ▸ hs, hs⟩ h
  have hsubset : passed ⊆ d.triggers.map some := by
    intro place hplace
    obtain ⟨i, hi, rfl⟩ := List.mem_map.1 hplace
    obtain ⟨s, hs, htag⟩ := htriggers i (List.mem_range.1 hi)
    rw [hs]
    exact List.mem_map_of_mem (mem_triggers.2 htag)
  have hle := (List.subperm_of_subset hnodup hsubset).length_le
  rwa [List.length_map, List.length_map, List.length_range] at hle

/-- A chain that stops has a last node. -/
theorem exists_last_of_chain_eq_none {r : d.Ref} {n : Nat} (h : d.chain r n = none) :
    ∃ m last, m < n ∧ d.chain r m = some last ∧ d.goto? last = none := by
  induction n with
  | zero => cases h
  | succ n ih =>
      cases hn : d.chain r n with
      | none =>
          obtain ⟨m, last, hlt, hlast⟩ := ih hn
          exact ⟨m, last, Nat.lt_succ_of_lt hlt, hlast⟩
      | some last =>
          rw [chain, hn, Option.bind_some] at h
          exact ⟨n, last, Nat.lt_succ_self n, hn, h⟩

/-! ## Following a chain -/

/-- Following a goto takes one hop. -/
theorem followTriggers_succ_of_goto? {r next : d.Ref} (h : d.goto? r = some next) (hops : Nat) :
    d.followTriggers (hops + 1) (some r) = d.followTriggers hops (some next) := by
  obtain ⟨htag, hload⟩ := goto?_eq_some_iff.1 h
  rw [followTriggers, if_pos htag, hload]

theorem followTriggers_add_of_chain {r s : d.Ref} {n : Nat} (h : d.chain r n = some s)
    (hops : Nat) : d.followTriggers (hops + n) (some r) = d.followTriggers hops (some s) := by
  induction n generalizing s hops with
  | zero =>
      cases h
      rfl
  | succ n ih =>
      obtain ⟨t, ht, hnext⟩ := Option.bind_eq_some_iff.1 h
      rw [← Nat.add_assoc, Nat.add_right_comm, ih ht, followTriggers_succ_of_goto? hnext]

/-- Two hops are enough from a trigger that does not go on, as the end of the quest takes one of its
own. -/
theorem arrives_followTriggers {last : d.Ref} (htag : d.tag last = .trigger)
    (hlast : d.goto? last = none) (hops : Nat) :
    d.Arrives last (d.followTriggers (hops + 2) (some last)) := by
  rw [followTriggers, if_pos htag]
  cases hload : d.loadTrigger last with
  | error fault => exact .fault htag hload
  | ok trigger =>
      obtain ⟨target, kind⟩ := trigger
      cases kind with
      | finish =>
          refine .finish (isEndTrigger_iff.2 ⟨htag, ?_⟩)
          rw [hload, target_of_loadTrigger_finish hload]
      | goto =>
          rw [goto?_eq_some_iff.2 ⟨htag, hload⟩] at hlast
          cases hlast

theorem code_ne_of_loadTrigger {r : d.Ref} {fault : Fault} (h : d.loadTrigger r = .error fault) :
    fault.code ≠ "SESSION_GOTO_LOOP" := by
  unfold loadTrigger at h
  dsimp only at h
  split at h
  · cases h
  · split at h
    · cases h
      simp [faultAt, Fault.code, Cause.code]
    · split at h
      · cases h
      · cases h
        simp [faultAt, Fault.code, Cause.code]

theorem code_ne_of_arrives {last : d.Ref} {fault : Fault} (h : d.Arrives last (.error fault)) :
    fault.code ≠ "SESSION_GOTO_LOOP" := by
  cases h with
  | fault _ hload => exact code_ne_of_loadTrigger hload

/-- With more hops than there are triggers, play arrives at the end of every chain that comes to no
trigger twice. -/
theorem exists_arrives_of_not_revisits {hops : Nat} (hhops : d.triggers.length < hops) {r : d.Ref}
    (h : ¬ d.Revisits r) :
    ∃ n last, d.chain r n = some last ∧ d.Arrives last (d.followTriggers hops (some r)) := by
  have hstops : d.chain r (d.triggers.length + 1) = none := by
    by_contra hlong
    have hle := le_length_triggers_of_not_revisits (n := d.triggers.length + 1) h ?_
    · omega
    · intro i hi
      obtain ⟨last, hlast⟩ := Option.ne_none_iff_exists'.1 hlong
      obtain ⟨s, hs, -⟩ := exists_chain_of_le hlast (Nat.le_of_lt hi)
      exact ⟨s, hs, tag_of_chain_of_lt hlong hi hs⟩
  obtain ⟨n, last, hlt, hlast, hnone⟩ := exists_last_of_chain_eq_none hstops
  refine ⟨n, last, hlast, ?_⟩
  by_cases htag : d.tag last = .trigger
  · -- The last trigger is one more that was passed, so a hop is left for the end of the quest.
    have hle := le_length_triggers_of_not_revisits (n := n + 1) h ?_
    · obtain ⟨more, rfl⟩ : ∃ more, hops = more + 2 + n := ⟨hops - 2 - n, by omega⟩
      rw [followTriggers_add_of_chain hlast]
      exact arrives_followTriggers htag hnone more
    · intro i hi
      rcases Nat.lt_succ_iff_lt_or_eq.1 hi with hlt | rfl
      · obtain ⟨s, hs, -⟩ := exists_chain_of_le hlast (Nat.le_of_lt hlt)
        exact ⟨s, hs, tag_of_chain_of_lt (by simp [hlast]) hlt hs⟩
      · exact ⟨last, hlast, htag⟩
  · obtain ⟨more, rfl⟩ : ∃ more, hops = more + 1 + n := ⟨hops - 1 - n, by omega⟩
    rw [followTriggers_add_of_chain hlast, followTriggers, if_neg htag]
    exact .card htag

theorem followTriggers_eq_error_of_revisits {r : d.Ref} (h : d.Revisits r) (hops : Nat) :
    d.followTriggers hops (some r) = .error (.ofCause (.endlessTriggers maxTriggers)) := by
  obtain ⟨s, hs⟩ := Option.ne_none_iff_exists'.1 (chain_ne_none_of_revisits h hops)
  rw [← Nat.zero_add hops, followTriggers_add_of_chain hs, followTriggers]

/-- In a document with fewer triggers than are followed, play gives up on triggers exactly if their
chain comes to one of them twice. Otherwise it arrives at what the last node of the chain is: the
fault of a trigger that cannot be followed, the end of the quest, or a node that is no trigger. -/
theorem followTriggers_of_chain (hfew : d.triggers.length < 10000) (r : d.Ref) :
    ((∃ fault, d.followTriggers maxTriggers (some r) = .error fault ∧
        fault.code = "SESSION_GOTO_LOOP") ↔ d.Revisits r) ∧
    (¬ d.Revisits r → ∃ n last, d.chain r n = some last ∧
      d.Arrives last (d.followTriggers maxTriggers (some r))) := by
  have hmax : d.triggers.length < maxTriggers := hfew
  refine ⟨⟨?_, ?_⟩, exists_arrives_of_not_revisits hmax⟩
  · rintro ⟨fault, hfault, hcode⟩
    by_contra hnot
    obtain ⟨n, last, -, harrives⟩ := exists_arrives_of_not_revisits hmax hnot
    rw [hfault] at harrives
    exact code_ne_of_arrives harrives hcode
  · intro hrevisits
    exact ⟨_, followTriggers_eq_error_of_revisits hrevisits maxTriggers, rfl⟩

/-- Three signs that send play from one to the next and back to the first, one that points at them,
and two that lead out. -/
def crossroads : String :=
  "<quest><trigger id='a'>goto b</trigger><trigger id='b'>goto c</trigger>" ++
    "<trigger id='c'>goto a</trigger><trigger id='d'>goto a</trigger>" ++
    "<trigger id='e'>goto f</trigger><trigger id='f'>end</trigger></quest>"

/-- Play is lost from the first four signs, but not from the last two. -/
theorem followTriggers_of_chain_crossroads :
    ∃ d, read crossroads = .ok d ∧ d.triggers.length = 6 ∧ 6 < 10000 ∧ ∀ r ∈ d.triggers,
      ((∃ fault, d.followTriggers maxTriggers (some r) = .error fault ∧
        fault.code = "SESSION_GOTO_LOOP") ↔ (d.node r).id? ∉ [some "e", some "f"]) := by
  have hresult : (read crossroads).toOption.map (fun d => (d.triggers.length,
      d.triggers.all fun r =>
        if (d.node r).id? ∈ [some "e", some "f"] then d.chain r 2 == none
        else (d.chain r 1).isSome && d.chain r 1 == d.chain r 4)) = some (6, true) := by
    decide +kernel
  obtain ⟨d, hd, hresult⟩ := Option.map_eq_some_iff.1 hresult
  obtain ⟨hlength, hall⟩ := Prod.mk.inj hresult
  refine ⟨d, Except.toOption_eq_some_iff.1 hd, hlength, by decide, ?_⟩
  intro r hr
  rw [(followTriggers_of_chain (by omega) r).1]
  have hchain := List.all_eq_true.1 hall r hr
  split at hchain
  next hout =>
    refine iff_of_false ?_ (not_not_intro hout)
    intro hrevisits
    exact chain_ne_none_of_revisits hrevisits 2 (eq_of_beq hchain)
  next hlost =>
    rw [Bool.and_eq_true, beq_iff_eq] at hchain
    obtain ⟨s, hs⟩ := Option.isSome_iff_exists.1 hchain.1
    have hback : d.chain r 4 = some s := hchain.2 ▸ hs
    have hlong : d.chain r 4 ≠ none := by simp [hback]
    exact iff_of_true ⟨1, 4, s, by decide, tag_of_chain_of_lt hlong (by decide) hs, hs, hback⟩ hlost

end Gamebook.Document
