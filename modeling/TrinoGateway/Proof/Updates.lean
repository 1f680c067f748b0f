import TrinoGateway.Spec.GroupApi
import TrinoGateway.Spec.PolicyApi
import TrinoGateway.Spec.BackendApi
import TrinoGateway.Spec.QueryApi

/-!
# Failed updates

`updateSelective` reads a failed `UPDATE` as one that affected no row, and every repository
reads that as success. So in each of the four repositories, and in the `CreateOrUpdate`
functions on an existing id, **a nil error means that the `UPDATE` was executed if and only
if it did not fail** (`nil_iff_update_executed`): every failure is reported as success,
except that a group's failed mapping replacement ends the call before its `UPDATE`.
-/

namespace TrinoGateway

open Interact Prog

namespace Spine

/-- After a statement that failed no mappings are saved. -/
theorem saveAssociations_of_error {q : StmtResult} (h : q.error ≠ none)
    (rows : List GroupBackendsMapping) : saveAssociations rows q = ret q :=
  if_neg fun hc => h hc.1

theorem saveAssociations_nil (q : StmtResult) : saveAssociations [] q = ret q :=
  if_neg fun hc => hc.2 rfl

theorem saveAssociations_of_ne {q : StmtResult} (h : q.error = none)
    {rows : List GroupBackendsMapping} (hne : rows ≠ []) :
    saveAssociations rows q =
      .op (.insertMappings rows) fun a => ret { q with error := a.error } :=
  if_pos ⟨h, hne⟩

end Spine

/-- What the database answers to each statement. A failed `UPDATE` affects no row. -/
structure Outcomes where
  answer : (o : Stmt) → o.Ans
  failed : ∀ t row, (answer (.updates t row)).error ≠ none →
    (answer (.updates t row)).rowsAffected = 0

namespace Outcomes

variable (out : Outcomes) (t : Tbl) (row : t.Row)

/-- What a call returns under these outcomes, and the statements it sends. -/
def run {α : Type} (p : Srv α) : Option α × List Stmt := p.run (logged out.answer) []

/-- The database executes the `UPDATE` of `row` without error. -/
def Executes : Prop := (out.answer (.updates t row)).error = none

/-- The call returns nil only if the `UPDATE` of `row` was sent and executed. -/
def NilMeansExecuted (p : Srv (Result Unit)) : Prop :=
  (out.run p).1 = some (.ok ()) → .updates t row ∈ (out.run p).2 ∧ out.Executes t row

variable (trace : List Stmt)

/-- Whatever it returns, an update sends its `UPDATE`. -/
theorem updates_mem :
    .updates t row ∈ ((Repo.update t row).run (logged out.answer) trace).2 :=
  mem_run_logged_op out.answer (.updates t row) _ trace

/-- **A failed `UPDATE` is reported as success.** -/
theorem update_failed (h : ¬ out.Executes t row) :
    ((Repo.update t row).run (logged out.answer) trace).1 = some (.ok ()) := by
  have h0 := out.failed t row h
  have hsave := Spine.saveAssociations_of_error h
  simp [Repo.update, Spine.update, Spine.updateSelective, hsave, h0]

/-- A call that comes to an update of `row`, with the statements of `pre` before it. -/
theorem nilMeansExecuted_of_update {p : Srv (Result Unit)} (pre : List Stmt)
    (hp : out.run p = (Repo.update t row).run (logged out.answer) pre) :
    out.NilMeansExecuted t row p ↔ out.Executes t row := by
  constructor
  · intro h
    by_contra hf
    exact hf (h (by rw [hp]; exact out.update_failed t row pre hf)).2
  · intro h _
    exact ⟨by rw [hp]; exact out.updates_mem t row pre, h⟩

/-- The database finds a row of this id. -/
def Exists (id : String) : Prop := ∃ r, out.answer (.first t id) = .ok r

/-- The database finds the group and its mappings. -/
def GroupExists (id : String) : Prop :=
  ∃ g ms, out.answer (.first .groups id) = .ok g ∧ out.answer (.findMappings [g.id]) = .ok ms

/-- The statements of a replacement of mappings whose errors are looked at are executed: the one
that stamps the group, and the insertion. -/
def Replaces (groupId : String) (ms : List GroupBackendsMapping) : Prop :=
  out.Executes .groups { id := groupId } ∧
    (ms ≠ [] → (out.answer (.insertMappings ms)).error = none)

/-- The replacement of the mappings that a group carries fails. -/
def ReplacementFails (group : Group) : Prop :=
  ∃ ms, group.groupBackendsMappings = some ms ∧ ¬ out.Replaces group.id ms

/-- How a replacement ends, and that it only adds to the trace. -/
theorem run_replaceAssociations (groupId : String) (ms : List GroupBackendsMapping) :
    ∃ res post, (Spine.replaceAssociations groupId ms).run (logged out.answer) trace =
        (some res, trace ++ post) ∧
      ((out.Replaces groupId ms ∧ res = .ok ()) ∨
        (¬ out.Replaces groupId ms ∧ ∃ e, res = .error e)) := by
  unfold Spine.replaceAssociations Replaces
  simp only [bind_eq, perform_bind, run_op, logged]
  by_cases hstamp : out.Executes .groups { id := groupId }
  · have herror : (out.answer (.updates .groups { id := groupId })).error = none := hstamp
    by_cases hms : ms = []
    · subst hms
      have hpost := List.append_assoc trace [.updates .groups { id := groupId }]
        [.detachMappings groupId []]
      rw [Spine.saveAssociations_nil, ret_bind, herror]
      exact ⟨.ok (), _, Prod.ext rfl hpost, Or.inl ⟨⟨hstamp, absurd rfl⟩, rfl⟩⟩
    · rw [Spine.saveAssociations_of_ne herror hms]
      simp only [op_bind, run_op, logged, ret_bind]
      cases hsave : (out.answer (.insertMappings ms)).error with
      | some e =>
        have hpost := List.append_assoc trace [.updates .groups { id := groupId }]
          [.insertMappings ms]
        exact ⟨.error (.db e), _, Prod.ext rfl hpost,
          Or.inr ⟨fun h => Option.some_ne_none e (h.2 hms), _, rfl⟩⟩
      | none =>
        -- whatever the last statement answers
        have hpost : trace ++ [.updates .groups { id := groupId }] ++ [.insertMappings ms] ++
            [.detachMappings groupId ms] = trace ++ [.updates .groups { id := groupId },
              .insertMappings ms, .detachMappings groupId ms] := by simp
        exact ⟨.ok (), _, Prod.ext rfl hpost, Or.inl ⟨⟨hstamp, fun _ => rfl⟩, rfl⟩⟩
  · obtain ⟨e, he⟩ := Option.ne_none_iff_exists'.mp hstamp
    rw [Spine.saveAssociations_of_error hstamp, ret_bind, he]
    exact ⟨.error (.db e), [_], rfl, Or.inr ⟨fun h => hstamp h.1, _, rfl⟩⟩

/-- A group's update, with the statements of `pre` before it. -/
theorem nilMeansExecuted_of_groupUpdate {group : Group} {p : Srv (Result Unit)} (pre : List Stmt)
    (hp : out.run p = (GroupRepo.update group).run (logged out.answer) pre) :
    out.NilMeansExecuted .groups group p ↔
      out.ReplacementFails group ∨ out.Executes .groups group := by
  unfold GroupRepo.update at hp
  cases hm : group.groupBackendsMappings with
  | none =>
    rw [hm] at hp
    rw [out.nilMeansExecuted_of_update .groups group pre hp]
    simp [ReplacementFails, hm]
  | some ms =>
    rw [hm] at hp
    obtain ⟨res, post, hrun, ⟨hreplaces, rfl⟩ | ⟨hno, e, rfl⟩⟩ :=
      out.run_replaceAssociations pre group.id ms
    · -- the mappings are replaced, and the update follows
      have hupdate : out.run p =
          (Repo.update .groups group).run (logged out.answer) (pre ++ post) := by
        rw [hp]
        exact run_andThen_ok _ hrun
      rw [out.nilMeansExecuted_of_update .groups group _ hupdate]
      simp [ReplacementFails, hm, hreplaces]
    · -- the call ends with the replacement's error
      have herror : (out.run p).1 = some (.error e) := by
        rw [hp]
        simp only
        rw [run_andThen_error _ hrun]
      simp [NilMeansExecuted, herror, ReplacementFails, hm, hno]

/-- **A nil error of an update means an executed `UPDATE` exactly when the `UPDATE` does not
fail**, in every repository and in every `CreateOrUpdate` on an existing id. -/
theorem nil_iff_update_executed :
    (∀ b, out.NilMeansExecuted .backends b (BackendRepo.update b) ↔ out.Executes .backends b) ∧
    (∀ g, out.NilMeansExecuted .groups g (GroupRepo.update g) ↔
      out.ReplacementFails g ∨ out.Executes .groups g) ∧
    (∀ p, out.NilMeansExecuted .policies p (PolicyRepo.update p) ↔ out.Executes .policies p) ∧
    (∀ q, out.NilMeansExecuted .queries q (QueryRepo.update q) ↔ out.Executes .queries q) ∧
    (∀ req, out.Exists .backends req.id →
      (out.NilMeansExecuted .backends (BackendApi.backendOf req)
        (BackendApi.createOrUpdateBackend req) ↔
          out.Executes .backends (BackendApi.backendOf req))) ∧
    (∀ params, out.GroupExists params.id →
      (out.NilMeansExecuted .groups (GroupApi.groupOf params)
        (GroupApi.createOrUpdateGroup params) ↔
          out.ReplacementFails (GroupApi.groupOf params) ∨
            out.Executes .groups (GroupApi.groupOf params))) ∧
    (∀ params, out.Exists .policies params.id →
      (out.NilMeansExecuted .policies (PolicyApi.policyOf params)
        (PolicyApi.createOrUpdatePolicy params) ↔
          out.Executes .policies (PolicyApi.policyOf params))) ∧
    (∀ params, out.Exists .queries params.id →
      (out.NilMeansExecuted .queries (QueryApi.queryOf params)
        (QueryApi.createOrUpdateQuery params) ↔
          out.Executes .queries (QueryApi.queryOf params))) := by
  refine ⟨fun b => ?_, fun g => ?_, fun p => ?_, fun q => ?_, fun req hex => ?_,
    fun params hex => ?_, fun params hex => ?_, fun params hex => ?_⟩
  · exact out.nilMeansExecuted_of_update .backends b [] rfl
  · exact out.nilMeansExecuted_of_groupUpdate [] rfl
  · exact out.nilMeansExecuted_of_update .policies p [] rfl
  · exact out.nilMeansExecuted_of_update .queries q [] rfl
  · obtain ⟨r, hr⟩ := hex
    apply out.nilMeansExecuted_of_update .backends _ [.first .backends req.id]
    simp [run, BackendApi.createOrUpdateBackend, BackendRepo.find, Repo.find, Spine.findByID, hr,
      BackendRepo.update]
  · obtain ⟨g, ms, hg, hms⟩ := hex
    apply out.nilMeansExecuted_of_groupUpdate
      [.first .groups params.id, .findMappings [g.id]]
    simp [run, GroupApi.createOrUpdateGroup, GroupRepo.find, Spine.findByID, Spine.preload, hg, hms,
      andThen]
  · obtain ⟨r, hr⟩ := hex
    apply out.nilMeansExecuted_of_update .policies _ [.first .policies params.id]
    simp [run, PolicyApi.createOrUpdatePolicy, PolicyRepo.find, Repo.find, Spine.findByID, hr,
      PolicyRepo.update]
  · obtain ⟨r, hr⟩ := hex
    apply out.nilMeansExecuted_of_update .queries _ [.first .queries params.id]
    simp [run, QueryApi.createOrUpdateQuery, QueryRepo.find, Repo.find, Spine.findByID, hr,
      QueryRepo.update]

/-- Every statement fails. -/
def connectionLost : Outcomes where
  answer := Stmt.failed 0 (.other "connection lost")
  failed _ _ _ := rfl

/-- A backend's update whose `UPDATE` failed returns nil. -/
theorem connectionLost_backend_update :
    ¬ connectionLost.NilMeansExecuted .backends { id := "trino-1" }
      (BackendRepo.update { id := "trino-1" }) := by
  intro h
  have hexec := (h rfl).2
  cases hexec

end Outcomes

end TrinoGateway
