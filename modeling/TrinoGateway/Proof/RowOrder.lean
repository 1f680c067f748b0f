import TrinoGateway.Proof.PolicySets

/-!
# Policies in any order

A query without `ORDER BY` may answer with its rows in any order. `RowOrder.mysqlIn` is the database
that does, and a program is `Blind` if its runs do not depend on it.

* The groups for a client and the delegation of a port are computed from the set of rows.
* The request source of a port is that of the first row: `requestSource_iff` says that it does not
  depend on the order **exactly when the enabled policies of the port agree on it**.
-/

namespace TrinoGateway

open Interact Prog

/-- An order of rows, for each table and statement of a run. -/
structure RowOrder where
  order : ℕ → (t : Tbl) → List t.Row → List t.Row
  perm : ∀ n t rs, (order n t rs).Perm rs

namespace RowOrder

/-- The answer to the `n`-th statement of a run. -/
def reorder (rows : RowOrder) (n : ℕ) : (o : Stmt) → o.Ans → o.Ans
  | .find t _, .ok rs => .ok (rows.order n t rs)
  | _, a => a

/-- The handler of a run in which queries find rows in this order. -/
def mysqlIn (rows : RowOrder) (env : Env) (o : Stmt) (w : World) : o.Ans × World :=
  let r := mysql env o w
  (rows.reorder w.tick o r.1, r.2)

/-- The runs of the program do not depend on the order of rows. -/
def Blind {α : Type} (p : Srv α) : Prop :=
  ∀ (rows : RowOrder) (env : Env) (w : World), p.run (rows.mysqlIn env) w = p.run (mysql env) w

section Blind

variable {α β : Type}

theorem blind_ret (a : α) : Blind (ret a) := fun _ _ _ => rfl

theorem Blind.andThen {p : Srv (Result α)} {f : α → Srv (Result β)} (hp : Blind p)
    (hf : ∀ a, Blind (f a)) : Blind (p.andThen f) := by
  intro rows env w
  exact run_andThen_rel (R := Eq) _ w (fun _ => rfl) (hp rows env w) fun a => hf a rows env

/-- A query whose rows are used as a set. -/
theorem blind_find {t : Tbl} {c : Where} {k : Except DbErr (List t.Row) → Srv α}
    (hperm : ∀ rs rs', rs.Perm rs' → k (.ok rs) = k (.ok rs')) (hk : ∀ a, Blind (k a)) :
    Blind (.op (.find t c) k) := by
  intro rows env w
  have hans : k (rows.reorder w.tick (.find t c) (mysql env (.find t c) w).1) =
      k (mysql env (.find t c) w).1 := by
    cases (mysql env (.find t c) w).1 with
    | error e => rfl
    | ok rs => exact hperm _ _ (rows.perm w.tick t rs)
  rw [run_op, run_op, ← hk _ rows env, ← hans]
  rfl

end Blind

end RowOrder

namespace PolicyApi

open RowOrder

theorem blind_findMany {α : Type} {params : FindManyParams} {f : List Policy → Srv (Result α)}
    (hperm : ∀ rs rs', rs.Perm rs' → f rs = f rs') (hf : ∀ rs, Blind (f rs)) :
    Blind ((findMany params).andThen f) := by
  refine blind_find (t := .policies) (fun rs rs' hp => ?_) fun a => ?_
  · exact hperm rs rs' hp
  · cases a with
    | error e => exact blind_ret _
    | ok rs => exact hf rs

theorem blind_findGroupsForPolicyTypes (ruleType ruleValue : String) :
    Blind (findGroupsForPolicyTypes ruleType ruleValue) := by
  refine blind_findMany (fun rs rs' hp => ?_) fun rs => ?_
  · rw [List.toFinset_eq_of_perm _ _ (hp.map Policy.groupId)]
  · dsimp only
    split <;> exact blind_ret _

theorem blind_evaluateGroupsForClient (ord : MapOrder) (params : EvaluateClientParams) :
    Blind (evaluateGroupsForClient ord params) :=
  (blind_findGroupsForPolicyTypes _ _).andThen fun _ =>
    (blind_findGroupsForPolicyTypes _ _).andThen fun _ =>
      (blind_findGroupsForPolicyTypes _ _).andThen fun _ =>
        (blind_findGroupsForPolicyTypes _ _).andThen fun _ => blind_ret _

theorem blind_evaluateAuthDelegation (port : ℤ) : Blind (evaluateAuthDelegation port) := by
  refine blind_findMany (fun rs rs' hp => ?_) fun rs => blind_ret _
  rw [hp.isEmpty_eq]

/-- What a run answers, as a set of groups. -/
def groupSet (outcome : Option (Result (List String))) : Option (Result (Finset String)) :=
  outcome.map (Except.map List.toFinset)

/-- The set does not depend on the order in which Go ranges over it. -/
theorem groupSet_mapOrder (ord₁ ord₂ : MapOrder) (params : EvaluateClientParams) (env : Env)
    (w : World) :
    groupSet ((evaluateGroupsForClient ord₁ params).run (mysql env) w).1 =
      groupSet ((evaluateGroupsForClient ord₂ params).run (mysql env) w).1 := by
  have hnext : ∀ {α : Type} (p : Srv (Result α)) (f₁ f₂ : α → Srv (Result (List String))),
      (∀ a w, groupSet ((f₁ a).run (mysql env) w).1 = groupSet ((f₂ a).run (mysql env) w).1) →
      ∀ w, groupSet ((p.andThen f₁).run (mysql env) w).1 =
        groupSet ((p.andThen f₂).run (mysql env) w).1 := by
    intro α p f₁ f₂ hf w
    exact run_andThen_rel (R := fun out out' => groupSet out.1 = groupSet out'.1) _ w
      (fun _ => rfl) rfl hf
  have hkeys : ∀ (ord : MapOrder) (s : Finset String), (ord.keys s).toFinset = s := by
    intro ord s
    ext k
    rw [List.mem_toFinset, ord.mem_keys]
  refine hnext _ _ _ (fun s₁ w₁ => ?_) w
  refine hnext _ _ _ (fun s₂ w₂ => ?_) w₁
  refine hnext _ _ _ (fun s₃ w₃ => ?_) w₂
  refine hnext _ _ _ (fun s₄ w₄ => ?_) w₃
  simp [groupSet, Except.map, hkeys]

/-- The enabled policies of a port. -/
def portPolicies (db : Db) (port : ℤ) : List Policy :=
  db.policies.filter fun p =>
    p.isEnabled = some true ∧ p.ruleType = "listening_port" ∧ p.ruleValue = toString port

/-- What the rows found make of the source: a `NULL` in the first one is a panic. -/
def sourceOf : List Policy → Option (Result String)
  | [] => some (.ok "")
  | p :: _ => p.setRequestSource.map .ok

theorem run_evaluateRequestSource (rows : RowOrder) (env : Env) (w : World) (port : ℤ) :
    ((evaluateRequestSource port).run (rows.mysqlIn env) w).1 =
      match env.faults w.tick with
      | some e => some (.error (Spine.dbError e))
      | none => sourceOf (rows.order w.tick .policies (portPolicies w.db port)) := by
  have hrows : (w.db.rows .policies).filter (Where.holds
      { eqs := (FindManyParams.mk true "listening_port" (toString port) false).conditions }
        .policies) = portPolicies w.db port :=
    List.filter_congr fun p _ => holds_policy "listening_port" (toString port) p
  unfold evaluateRequestSource findMany PolicyRepo.findMany Repo.findMany Spine.findMany
  simp only [andThen, bind_eq, perform_bind, op_bind, run_op]
  cases hf : env.faults w.tick with
  | some e => simp [mysqlIn, mysql, exec, hf, reorder, Stmt.failed]
  | none =>
    simp only [mysqlIn, mysql, exec, hf, reorder, Db.answer, hrows]
    cases rows.order w.tick .policies (portPolicies w.db port) with
    | nil => rfl
    | cons p ps => cases hs : p.setRequestSource <;> simp [sourceOf, hs]

/-- The order in which the row `p` comes first, if it is found. -/
def front (p : Policy) : RowOrder where
  order _
    | .policies, rs => if p ∈ rs then p :: rs.erase p else rs
    | .backends, rs => rs
    | .groups, rs => rs
    | .queries, rs => rs
  perm n t rs := by
    cases t with
    | policies =>
      simp only
      split
      · exact (List.perm_cons_erase ‹_›).symm
      · exact .refl rs
    | _ => exact .refl rs

theorem sourceOf_front {p : Policy} {ps : List Policy} (hp : p ∈ ps) (n : ℕ) :
    sourceOf ((front p).order n .policies ps) = p.setRequestSource.map .ok := by
  simp only [front, if_pos hp, sourceOf]

/-- Policies that agree on the source give it in any order. -/
theorem sourceOf_perm {ps ps' : List Policy} (hp : ps.Perm ps')
    (hagree : ∀ p ∈ ps, ∀ q ∈ ps, p.setRequestSource = q.setRequestSource) :
    sourceOf ps = sourceOf ps' := by
  cases ps with
  | nil => rw [hp.nil_eq]
  | cons p ps =>
    cases ps' with
    | nil => cases hp.eq_nil
    | cons q qs =>
      have hq : q ∈ p :: ps := hp.mem_iff.mpr List.mem_cons_self
      change p.setRequestSource.map _ = q.setRequestSource.map _
      rw [hagree p List.mem_cons_self q hq]

/-- **The source does not depend on the order exactly when the policies agree on it**, or when the
query fails. -/
theorem requestSource_iff (env : Env) (w : World) (port : ℤ) :
    (∀ rows₁ rows₂ : RowOrder, ((evaluateRequestSource port).run (rows₁.mysqlIn env) w).1 =
      ((evaluateRequestSource port).run (rows₂.mysqlIn env) w).1) ↔
    (env.faults w.tick = none → ∀ p ∈ portPolicies w.db port, ∀ q ∈ portPolicies w.db port,
      p.setRequestSource = q.setRequestSource) := by
  simp only [run_evaluateRequestSource]
  cases env.faults w.tick with
  | some e => simp
  | none =>
    simp only [forall_const]
    constructor
    · intro h p hp q hq
      have hpq := h (front p) (front q)
      rw [sourceOf_front hp, sourceOf_front hq] at hpq
      exact Option.map_injective (fun a b hab => by cases hab; rfl) hpq
    · intro hagree rows₁ rows₂
      have hsource : ∀ rows : RowOrder, sourceOf (portPolicies w.db port) =
          sourceOf (rows.order w.tick .policies (portPolicies w.db port)) := fun rows =>
        sourceOf_perm (rows.perm w.tick .policies (portPolicies w.db port)).symm hagree
      exact (hsource rows₁).symm.trans (hsource rows₂)

/-- **Policies in any order.** Whatever fails, the groups for a client are the same set and the
delegation of a port is the same in any two orders of rows, and the request source is the same in
all of them exactly when the policies of the port agree on it. -/
theorem evaluate_rowOrder (env : Env) (w : World) :
    (∀ params ord₁ ord₂ (rows₁ rows₂ : RowOrder),
      groupSet ((evaluateGroupsForClient ord₁ params).run (rows₁.mysqlIn env) w).1 =
        groupSet ((evaluateGroupsForClient ord₂ params).run (rows₂.mysqlIn env) w).1) ∧
    (∀ port (rows₁ rows₂ : RowOrder), ((evaluateAuthDelegation port).run (rows₁.mysqlIn env) w).1 =
      ((evaluateAuthDelegation port).run (rows₂.mysqlIn env) w).1) ∧
    ∀ port, (∀ rows₁ rows₂ : RowOrder, ((evaluateRequestSource port).run (rows₁.mysqlIn env) w).1 =
        ((evaluateRequestSource port).run (rows₂.mysqlIn env) w).1) ↔
      (env.faults w.tick = none → ∀ p ∈ portPolicies w.db port, ∀ q ∈ portPolicies w.db port,
        p.setRequestSource = q.setRequestSource) := by
  refine ⟨fun params ord₁ ord₂ rows₁ rows₂ => ?_, fun port rows₁ rows₂ => ?_,
    requestSource_iff env w⟩
  · rw [blind_evaluateGroupsForClient ord₁ params rows₁,
      blind_evaluateGroupsForClient ord₂ params rows₂]
    exact groupSet_mapOrder ord₁ ord₂ params env w
  · rw [blind_evaluateAuthDelegation port rows₁, blind_evaluateAuthDelegation port rows₂]

/-- Two policies of one port, with two sources. -/
def twoSources : Db where
  policies :=
    [{ id := "etl", ruleType := "listening_port", ruleValue := "8080", groupId := "etl",
       isEnabled := some true, isAuthDelegated := some false, setRequestSource := some "etl" },
      { id := "adhoc", ruleType := "listening_port", ruleValue := "8080", groupId := "adhoc",
        isEnabled := some true, isAuthDelegated := some false, setRequestSource := some "adhoc" }]

/-- The source of port 8080 is the one of the row that comes first. -/
theorem twoSources_disagree :
    ¬ ∀ rows₁ rows₂ : RowOrder,
      ((evaluateRequestSource 8080).run (rows₁.mysqlIn (.available fun _ => 0)) ⟨twoSources, 0⟩).1 =
        ((evaluateRequestSource 8080).run (rows₂.mysqlIn (.available fun _ => 0)) ⟨twoSources, 0⟩).1 := by
  rw [requestSource_iff]
  decide +kernel

end PolicyApi

end TrinoGateway
