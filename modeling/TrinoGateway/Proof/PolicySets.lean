import Mathlib.Order.WithBot
import Mathlib.Data.Finset.Lattice.Lemmas
import TrinoGateway.Spec.PolicyApi
import TrinoGateway.Proof.Repo

/-!
# Evaluating the groups for a client

* A `GoSet` is a constraint on groups: nil is the top element, no constraint. On it
  `setIntersection` **is the lattice infimum** (`constraint_setIntersection`), so combining
  sets does not depend on their order or on how they are bracketed.
* `evaluateGroupsForClient_exact`: the groups answered are those in every non-empty set of
  matching groups, if there is such a set.
-/

namespace TrinoGateway

open Interact Prog

namespace PolicyApi

/-- The constraint that a map stands for: nil allows every group. -/
def GoSet.constraint : GoSet → WithTop (Finset String)
  | none => ⊤
  | some ks => ks

@[simp] theorem GoSet.constraint_none : GoSet.constraint none = ⊤ := rfl

@[simp] theorem GoSet.constraint_some (ks : Finset String) :
    GoSet.constraint (some ks) = (ks : WithTop (Finset String)) := rfl

theorem GoSet.constraint_injective : Function.Injective GoSet.constraint := by
  intro s t h
  cases s <;> cases t <;> simp_all

@[simp] theorem GoSet.constraint_eq_top {s : GoSet} : s.constraint = ⊤ ↔ s = none := by
  cases s <;> simp

/-- **The map operations compute the infimum** of the two constraints. -/
theorem constraint_setIntersection (s1 s2 : GoSet) :
    (setIntersection s1 s2).constraint = s1.constraint ⊓ s2.constraint := by
  cases s1 with
  | none => simp [setIntersection, GoSet.len, GoSet.elems]
  | some a =>
    cases s2 with
    | none =>
      by_cases ha : 0 < a.card
      · simp [setIntersection, GoSet.len, GoSet.elems, ha]
      · -- both have length 0 and are not swapped: the empty map stays empty
        have h0 : a = ∅ := Finset.card_eq_zero.mp (by omega)
        simp [setIntersection, GoSet.len, GoSet.elems, h0]
    | some b =>
      by_cases h : b.card < a.card
      · simp [setIntersection, GoSet.len, GoSet.elems, h, Finset.filter_mem_eq_inter,
          Finset.inter_comm, ← WithTop.coe_inf]
      · simp [setIntersection, GoSet.len, GoSet.elems, h, Finset.filter_mem_eq_inter,
          ← WithTop.coe_inf]

theorem setIntersection_comm (s1 s2 : GoSet) : setIntersection s1 s2 = setIntersection s2 s1 :=
  GoSet.constraint_injective (by simp only [constraint_setIntersection, inf_comm])

theorem setIntersection_assoc (s1 s2 s3 : GoSet) :
    setIntersection (setIntersection s1 s2) s3 = setIntersection s1 (setIntersection s2 s3) :=
  GoSet.constraint_injective (by simp only [constraint_setIntersection, inf_assoc])

theorem setIntersection_eq_none {s1 s2 : GoSet} :
    setIntersection s1 s2 = none ↔ s1 = none ∧ s2 = none := by
  simp only [← GoSet.constraint_eq_top, constraint_setIntersection, inf_eq_top_iff]

/-- Whether a constraint allows a group. -/
def GoSet.Allows (s : GoSet) (g : String) : Prop :=
  (({g} : Finset String) : WithTop (Finset String)) ≤ s.constraint

@[simp] theorem GoSet.allows_some {ks : Finset String} {g : String} :
    GoSet.Allows (some ks) g ↔ g ∈ ks := by
  simp [GoSet.Allows]

@[simp] theorem setIntersection_allows {s1 s2 : GoSet} {g : String} :
    (setIntersection s1 s2).Allows g ↔ s1.Allows g ∧ s2.Allows g := by
  simp only [GoSet.Allows, constraint_setIntersection, le_inf_iff]

theorem GoSet.mem_elems {s : GoSet} {g : String} : g ∈ s.elems ↔ s ≠ none ∧ s.Allows g := by
  cases s <;> simp [GoSet.elems]

/-- An empty set of groups stays empty whatever is combined with it. -/
theorem setIntersection_empty (s : GoSet) : setIntersection (some ∅) s = some ∅ := by
  apply GoSet.constraint_injective
  rw [constraint_setIntersection]
  exact inf_eq_left.mpr bot_le

/-- The groups of the enabled policies of a rule type with a rule value. -/
def matchingGroups (db : Db) (ruleType ruleValue : String) : Finset String :=
  ((db.policies.filter fun p =>
    p.isEnabled = some true ∧ p.ruleType = ruleType ∧ p.ruleValue = ruleValue).map
      Policy.groupId).toFinset

/-- The dimensions of a client: each rule type with the client's value for it. -/
def EvaluateClientParams.dimensions (c : EvaluateClientParams) : List (String × String) :=
  -- the column's `ENUM` spells the second rule type `header_client_host`
  [("listening_port", toString c.listeningPort), ("header_host", c.hostname),
    ("header_client_tags", c.headerClientTags),
    ("header_connection_properties", c.headerConnectionProperties)]

/-- The map that a dimension's policies give: nil when none matches. -/
def policySet (db : Db) (d : String × String) : GoSet :=
  if matchingGroups db d.1 d.2 = ∅ then none else some (matchingGroups db d.1 d.2)

theorem policySet_ne_none {db : Db} {d : String × String} :
    policySet db d ≠ none ↔ (matchingGroups db d.1 d.2).Nonempty := by
  unfold policySet
  split <;> simp_all [Finset.nonempty_iff_ne_empty]

theorem policySet_allows {db : Db} {d : String × String} {g : String} :
    (policySet db d).Allows g ↔
      ((matchingGroups db d.1 d.2).Nonempty → g ∈ matchingGroups db d.1 d.2) := by
  unfold policySet
  split
  · simp_all [GoSet.Allows]
  · simp_all [Finset.nonempty_iff_ne_empty]

/-- The rows that the policies' condition selects. -/
theorem holds_policy (ruleType ruleValue : String) (p : Policy) :
    Where.holds
      { eqs := (FindManyParams.mk true ruleType ruleValue false).conditions } .policies p =
      decide (p.isEnabled = some true ∧ p.ruleType = ruleType ∧ p.ruleValue = ruleValue) := by
  simp [Where.holds, FindManyParams.conditions, Tbl.col]

variable (clock : ℕ → ℤ)

theorem run_findGroupsForPolicyTypes (w : World) (ruleType ruleValue : String) :
    (findGroupsForPolicyTypes ruleType ruleValue).run (mysql (.available clock)) w =
      (some (.ok (policySet w.db (ruleType, ruleValue))), w.next) := by
  unfold findGroupsForPolicyTypes
  rw [run_andThen_ok _ (by
    rw [findMany, PolicyRepo.findMany, Repo.findMany, Spine.run_findMany]
    simp only [read_available]; rfl)]
  have hrows : (w.db.rows .policies).filter
      (Where.holds
        { eqs := (FindManyParams.mk true ruleType ruleValue false).conditions } .policies) =
      w.db.policies.filter fun p =>
        p.isEnabled = some true ∧ p.ruleType = ruleType ∧ p.ruleValue = ruleValue :=
    List.filter_congr fun p _ => holds_policy ruleType ruleValue p
  rw [hrows]
  change run _ (if (matchingGroups w.db ruleType ruleValue).card = 0 then ret (Except.ok none)
    else ret (Except.ok (some (matchingGroups w.db ruleType ruleValue)))) _ = _
  by_cases h : matchingGroups w.db ruleType ruleValue = ∅ <;> simp [policySet, h]

/-- The run of `evaluateGroupsForClient` against an available database. -/
theorem run_evaluateGroupsForClient (ord : MapOrder) (w : World) (c : EvaluateClientParams) :
    (evaluateGroupsForClient ord c).run (mysql (.available clock)) w =
      (some (.ok (ord.keys (GoSet.elems
        ((c.dimensions.map (policySet w.db)).foldl setIntersection none)))),
        w.next.next.next.next) := by
  unfold evaluateGroupsForClient
  rw [run_andThen_ok _ (run_findGroupsForPolicyTypes clock _ _ _),
    run_andThen_ok _ (run_findGroupsForPolicyTypes clock _ _ _),
    run_andThen_ok _ (run_findGroupsForPolicyTypes clock _ _ _),
    run_andThen_ok _ (run_findGroupsForPolicyTypes clock _ _ _)]
  have hnil : ∀ s : GoSet, setIntersection none s = s := fun s => by
    apply GoSet.constraint_injective
    simp [constraint_setIntersection]
  simp [EvaluateClientParams.dimensions, hnil]

theorem foldl_allows {α : Type} (f : α → GoSet) (ds : List α) (s : GoSet) (g : String) :
    ((ds.map f).foldl setIntersection s).Allows g ↔ s.Allows g ∧ ∀ d ∈ ds, (f d).Allows g := by
  induction ds generalizing s with
  | nil => simp
  | cons d ds ih => simp [ih, and_assoc]

theorem foldl_ne_none {α : Type} (f : α → GoSet) (ds : List α) (s : GoSet) :
    (ds.map f).foldl setIntersection s ≠ none ↔ s ≠ none ∨ ∃ d ∈ ds, f d ≠ none := by
  induction ds generalizing s with
  | nil => simp
  | cons d ds ih =>
    simp only [List.map_cons, List.foldl_cons, ih, ne_eq, setIntersection_eq_none,
      List.exists_mem_cons_iff]
    tauto

/-- **The groups for a client are exactly those in every non-empty set of matching groups**,
when there is one; without duplicates, and whatever the order in which the four sets are
combined and Go ranges over the result. -/
theorem evaluateGroupsForClient_exact (ord : MapOrder) (w : World) (c : EvaluateClientParams) :
    (∃ gs, ((evaluateGroupsForClient ord c).run (mysql (.available clock)) w).1 = some (.ok gs) ∧
      gs.Nodup ∧
      ∀ g, g ∈ gs ↔
        (∃ d ∈ c.dimensions, (matchingGroups w.db d.1 d.2).Nonempty) ∧
        ∀ d ∈ c.dimensions, (matchingGroups w.db d.1 d.2).Nonempty →
          g ∈ matchingGroups w.db d.1 d.2) ∧
    (∀ s1 s2 s3 s4, [s1, s2, s3, s4].Perm (c.dimensions.map (policySet w.db)) →
      ((evaluateGroupsForClient ord c).run (mysql (.available clock)) w).1 =
        some (.ok (ord.keys (GoSet.elems
          (setIntersection (setIntersection (setIntersection s1 s2) s3) s4))))) ∧
    ∀ s, setIntersection (some ∅) s = some ∅ := by
  refine ⟨⟨_, by rw [run_evaluateGroupsForClient], ord.nodup _, fun g => ?_⟩, ?_,
    setIntersection_empty⟩
  · rw [ord.mem_keys, GoSet.mem_elems, foldl_ne_none, foldl_allows]
    simp only [ne_eq, not_true_eq_false, false_or, policySet_allows]
    have htop : GoSet.Allows none g := le_top
    simp only [htop, true_and]
    have hne : ∀ d, ¬ policySet w.db d = none ↔ (matchingGroups w.db d.1 d.2).Nonempty :=
      fun d => policySet_ne_none
    simp only [hne]
  · intro s1 s2 s3 s4 hp
    -- a fold of a commutative and associative operation does not see the order
    have : RightCommutative setIntersection :=
      ⟨fun a b c => by
        rw [setIntersection_assoc, setIntersection_comm b c, ← setIntersection_assoc]⟩
    rw [run_evaluateGroupsForClient, ← hp.foldl_eq]
    have hnil : setIntersection none s1 = s1 := by
      apply GoSet.constraint_injective
      simp [constraint_setIntersection]
    simp [hnil]

end PolicyApi

end TrinoGateway
