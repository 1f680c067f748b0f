import TrinoGateway.Proof.Schema
import TrinoGateway.Spec.PolicyApi
import Mathlib.Tactic.IntervalCases

/-!
# Saving a policy and reading it back

`createOrUpdatePolicy_declarative_iff`: a request succeeds and `GetPolicy` shows what it asked
for, with an empty fallback group replaced by the default routing group, **exactly if** MySQL
takes the row, the fallback group is given and no empty value leaves an old one, or if the
`UPDATE` fails and the old row was right already. A failed `UPDATE` is no error, `header_host`
is in no `ENUM`, and the default routing group is never filled in.
-/

namespace TrinoGateway

open Interact Prog

/-- The row shows the rule, groups and flags of a message. -/
structure Policy.Shows (row : Policy) (p : PolicyMsg) : Prop where
  ruleType : PolicyApi.ruleTypeValue row.ruleType = some p.ruleType
  ruleValue : row.ruleValue = p.ruleValue
  groupId : row.groupId = p.group
  fallbackGroupId : row.fallbackGroupId = some p.fallbackGroup
  isEnabled : row.isEnabled = some p.isEnabled
  isAuthDelegated : row.isAuthDelegated = some p.isAuthDelegated
  setRequestSource : row.setRequestSource = some p.setRequestSource

/-- The message with an empty fallback group replaced by the default routing group. -/
def PolicyMsg.withDefault (cfg : Config) (p : PolicyMsg) : PolicyMsg :=
  { p with
    fallbackGroup := if p.fallbackGroup = "" then cfg.defaultRoutingGroup else p.fallbackGroup }

/-- The message with its texts as their columns keep them. -/
def PolicyMsg.kept (p : PolicyMsg) : PolicyMsg :=
  { p with ruleValue := cut 255 p.ruleValue, setRequestSource := cut 255 p.setRequestSource }

namespace PolicyApi

theorem run_toPolicyResponseProto {row : Policy} {p : PolicyMsg} (h : row.Shows p) (env : Env)
    (w : World) :
    (toPolicyResponseProto row).run (mysql env) w = (some (.ok { p with id := row.id }), w) := by
  simp only [toPolicyResponseProto, h.ruleType, h.ruleValue, h.groupId, h.fallbackGroupId,
    h.isEnabled, h.isAuthDelegated, h.setRequestSource, deref_some, bind_eq, ret_bind, pure_eq,
    run_ret]

/-- A policy's message shows its row. -/
theorem shows_of_response {row : Policy} {p : PolicyMsg} {env : Env} {w : World}
    (h : ((toPolicyResponseProto row).run (mysql env) w).1 = some (.ok p)) :
    row.id = p.id ∧ row.Shows p := by
  unfold toPolicyResponseProto at h
  cases ht : ruleTypeValue row.ruleType with
  | none => simp [ht] at h
  | some v =>
    cases hf : row.fallbackGroupId with
    | none => simp [ht, hf] at h
    | some f =>
      cases he : row.isEnabled with
      | none => simp [ht, hf, he] at h
      | some e =>
        cases ha : row.isAuthDelegated with
        | none => simp [ht, hf, he, ha] at h
        | some a =>
          cases hs : row.setRequestSource with
          | none => simp [ht, hf, he, ha, hs] at h
          | some s =>
            simp only [ht, hf, he, ha, hs, deref_some, bind_eq, ret_bind, pure_eq, run_ret,
              Option.some.injEq, Except.ok.injEq] at h
            subst h
            exact ⟨rfl, ht, rfl, rfl, hf, he, ha, hs⟩

/-- `GetPolicy` answers with the message. -/
def ReadsBack (db : Db) (p : PolicyMsg) : Prop :=
  ∀ clock tick, ((Server.getPolicy p.id).run (mysql (.available clock)) ⟨db, tick⟩).1 =
    some (.ok p)

theorem readsBack_iff {db : Db} {p : PolicyMsg} :
    ReadsBack db p ↔ ∃ row, db.find .policies p.id = some row ∧ row.Shows p := by
  have hread : ∀ clock tick row, db.find .policies p.id = some row →
      (Server.getPolicy p.id).run (mysql (.available clock)) ⟨db, tick⟩ =
        (toPolicyResponseProto row).run (mysql (.available clock)) (World.next ⟨db, tick⟩) :=
    fun clock tick row hrow => Spine.run_findByID_some (.available clock) ⟨db, tick⟩ rfl hrow _
  constructor
  · intro h
    have hrun := h (fun _ => 0) 0
    cases hrow : db.find .policies p.id with
    | none =>
      obtain ⟨e, herror⟩ := Spine.run_findByID_none (.available fun _ => 0) ⟨db, 0⟩ (Or.inr hrow)
      have hget : (Server.getPolicy p.id).run (mysql (.available fun _ => 0)) ⟨db, 0⟩ =
          (some (.error e), World.next ⟨db, 0⟩) := herror _
      rw [hget] at hrun
      cases hrun
    | some row =>
      rw [hread _ _ _ hrow] at hrun
      exact ⟨row, rfl, (shows_of_response hrun).2⟩
  · rintro ⟨row, hrow, hshows⟩ clock tick
    have hid : row.id = p.id := Db.find_id hrow
    rw [hread _ _ _ hrow, run_toPolicyResponseProto hshows, hid]

/-- What is asked of a request: an id, a type of rule, and groups that exist, where the fallback
group may be left out. -/
structure Asks (cfg : Config) (db : Db) (p : PolicyMsg) : Prop where
  id : p.id ≠ ""
  ruleType : 0 ≤ p.ruleType ∧ p.ruleType ≤ 3
  group : p.group ∈ db.ids .groups
  fallbackGroup : p.fallbackGroup = "" ∨ p.fallbackGroup ∈ db.ids .groups
  defaultGroup : cfg.defaultRoutingGroup ∈ db.ids .groups

/-- MySQL takes the row of a request as it is: its rule type is one of the `ENUM`, its texts and the
time fit their columns, the characters of the texts come through the connection, and the fallback
group is the id of a group. -/
structure Storable (db : Db) (now : ℤ) (p : PolicyMsg) : Prop where
  ruleType : p.ruleType ≠ 2
  id : utf8mb3 p.id = true ∧ p.id.length ≤ 255
  ruleValue : utf8mb3 p.ruleValue = true ∧ p.ruleValue.length ≤ 255
  setRequestSource : utf8mb3 p.setRequestSource = true ∧ p.setRequestSource.length ≤ 255
  now : -2147483648 ≤ now ∧ now ≤ 2147483647
  fallbackGroup : p.fallbackGroup ∈ db.ids .groups

theorem enum_ruleType {v : ℤ} (h : 0 ≤ v ∧ v ≤ 3) :
    (enumSpelling ruleTypes (ruleTypeName v)).isSome = true ↔ v ≠ 2 := by
  obtain ⟨hlo, hhi⟩ := h
  interval_cases v <;> decide

/-- A rule type comes back as it went in. -/
theorem ruleType_round_trip {v : ℤ} (h : 0 ≤ v ∧ v ≤ 3) :
    ruleTypeName v ≠ "" ∧
      ruleTypeValue ((enumSpelling ruleTypes (ruleTypeName v)).getD (ruleTypeName v)) = some v := by
  obtain ⟨hlo, hhi⟩ := h
  interval_cases v <;> decide

theorem checks_policy_iff {row : Policy} :
    (∀ c ∈ Tbl.policies.checks row, c.1 = true) ↔
      (varchar 255 row.id).1 = true ∧ (enumSpelling ruleTypes row.ruleType).isSome = true ∧
      (varchar 255 row.ruleValue).1 = true ∧ (varchar 255 row.groupId).1 = true ∧
      (∀ f, row.fallbackGroupId = some f → (varchar 255 f).1 = true) ∧
      (∀ s, row.setRequestSource = some s → (varchar 255 s).1 = true) ∧
      (-2147483648 ≤ row.createdAt ∧ row.createdAt ≤ 2147483647) ∧
      (-2147483648 ≤ row.updatedAt ∧ row.updatedAt ≤ 2147483647) := by
  have hnullable : ∀ o : Option String, (nullable (varchar 255) o).1 = true ↔
      ∀ s, o = some s → (varchar 255 s).1 = true := by
    intro o
    cases o <;> simp [nullable]
  simp only [Tbl.checks, List.forall_mem_cons, List.not_mem_nil, false_imp_iff, implies_true,
    and_true, hnullable]
  simp only [enum, int32, decide_eq_true_eq]

/-- MySQL takes a row exactly if its checks pass and its references hold. -/
theorem accepts_iff {db : Db} {t : Tbl} {row : t.Row} :
    (∃ r, db.accept t row = .ok r) ↔
      (∀ c ∈ t.checks row, c.1 = true) ∧ db.RefsHold t row := by
  constructor
  · rintro ⟨r, hr⟩
    obtain ⟨-, hchecks, hrefs⟩ := Db.accept_ok hr
    exact ⟨firstFailing_eq_none hchecks, Db.refsHold_iff.mp hrefs⟩
  · rintro ⟨hchecks, hrefs⟩
    exact ⟨_, Db.accept_of _ _ hchecks (Db.refsHold_iff.mpr hrefs)⟩

/-- The ids of groups fit a column. -/
theorem varchar_of_mem_ids {db : Db} (h : db.Fits) {g : String} (hg : g ∈ db.ids .groups) :
    (varchar 255 g).1 = true := by
  obtain ⟨row, hrow, rfl⟩ := List.mem_map.mp hg
  exact h .groups row hrow (varchar 255 row.id) (List.mem_cons_self ..)

section Storable

variable {cfg : Config} {s : SchemaDb} {p : PolicyMsg}

theorem Storable.kept_eq {db : Db} {now : ℤ} (h : Storable db now p) : p.kept = p := by
  unfold PolicyMsg.kept
  rw [cut_of_length_le h.ruleValue.2, cut_of_length_le h.setRequestSource.2]

theorem insert_taken_iff (hp : Asks cfg s.db p) (now : ℤ) :
    (∃ r, s.db.accept .policies (Tbl.policies.onInsert now (policyOf (createParams p))) = .ok r) ↔
      Storable s.db now p.kept := by
  rw [accepts_iff, checks_policy_iff]
  simp only [Tbl.onInsert, Tbl.stamped, Tbl.fitted, policyOf, createParams, nonZero, if_true,
    enum_ruleType hp.ruleType, Option.some.injEq, Option.map_some, forall_eq', Db.RefsHold,
    Tbl.refs, Option.toList_some, List.forall_mem_cons, List.not_mem_nil, false_imp_iff,
    implies_true, and_true]
  constructor
  · rintro ⟨⟨hid, htype, hvalue, -, -, hsource, hnow, -⟩, -, hfallback⟩
    exact ⟨htype, varchar_iff.mp hid, varchar_iff.mp hvalue, varchar_iff.mp hsource, hnow,
      hfallback⟩
  · rintro ⟨htype, hid, hvalue, hsource, hnow, hfallback⟩
    exact ⟨⟨varchar_iff.mpr hid, htype, varchar_iff.mpr hvalue, varchar_of_mem_ids s.fits hp.group,
      varchar_of_mem_ids s.fits hfallback, varchar_iff.mpr hsource, hnow, hnow⟩, hp.group,
      hfallback⟩

/-- A text over one that fits is taken exactly if what the column would keep of it is. -/
theorem varchar_textField {new old : String} (hold : (varchar 255 old).1 = true) :
    (varchar 255 (textField 255 new old)).1 = true ↔ (varchar 255 (cut 255 new)).1 = true := by
  unfold textField
  split
  · rename_i h
    refine iff_of_true hold ?_
    rcases h with rfl | rfl
    · rw [cut_of_length_le (Nat.zero_le 255)]
      decide
    · rwa [cut_of_length_le (length_of_varchar hold)]
  · exact Iff.rfl

theorem varchar_textPointer {new : String} {old : Option String}
    (hold : ∀ s, old = some s → (varchar 255 s).1 = true) :
    (∀ s, textPointer 255 (some new) old = some s → (varchar 255 s).1 = true) ↔
      (varchar 255 (cut 255 new)).1 = true := by
  rcases textPointer_some 255 new old with h | ⟨hsame, h⟩
  · rw [h]
    simp only [Option.some.injEq, forall_eq']
  · have hnew : (varchar 255 new).1 = true := hold new hsame
    rw [h, cut_of_length_le (length_of_varchar hnew)]
    exact iff_of_true hold hnew

theorem update_taken_iff (hp : Asks cfg s.db p) {old : Policy}
    (hold : s.db.find .policies p.id = some old) (now : ℤ) :
    (∃ r, s.db.accept .policies (Tbl.policies.onUpdate now old (policyOf (createParams p))) =
      .ok r) ↔ Storable s.db now p.kept := by
  have hmem : old ∈ s.db.policies := Db.mem_of_find hold
  obtain ⟨hid, -, hvalue, -, -, hsource, hcreated, -⟩ :=
    checks_policy_iff.mp (s.fits .policies old hmem)
  have hsame : old.id = p.id := Db.find_id hold
  have hgroupRef : old.groupId ∈ s.db.ids .groups :=
    s.consistent.refs .policies old hmem _ (List.mem_cons_self ..)
  -- a field that is skipped keeps a value that fits
  have hgroup' : nonZero "" p.group old.groupId ∈ s.db.ids .groups := by
    unfold nonZero
    split
    · exact hgroupRef
    · exact hp.group
  rw [accepts_iff, checks_policy_iff]
  simp only [Tbl.onUpdate, policyOf, createParams, nonZero_ne (ruleType_round_trip hp.ruleType).1,
    enum_ruleType hp.ruleType, Option.some_or, Option.some.injEq, forall_eq', Db.RefsHold, Tbl.refs,
    Option.map_some, Option.toList_some, List.forall_mem_cons, List.not_mem_nil, false_imp_iff,
    implies_true, and_true, varchar_textField hvalue, varchar_textPointer hsource]
  constructor
  · rintro ⟨⟨-, htype, hvalue, -, -, hsource, -, hnow⟩, -, hfallback⟩
    exact ⟨htype, hsame ▸ varchar_iff.mp hid, varchar_iff.mp hvalue, varchar_iff.mp hsource, hnow,
      hfallback⟩
  · rintro ⟨htype, -, hvalue, hsource, hnow, hfallback⟩
    exact ⟨⟨hid, htype, varchar_iff.mpr hvalue, varchar_of_mem_ids s.fits hgroup',
      varchar_of_mem_ids s.fits hfallback, varchar_iff.mpr hsource, hcreated, hnow⟩, hgroup',
      hfallback⟩

/-- What a row that fits shows is kept as it is. -/
theorem kept_eq_of_shows {old : Policy} (hold : old ∈ s.db.policies)
    (h : old.Shows (p.withDefault cfg)) : p.kept = p := by
  obtain ⟨-, -, hvalue, -, -, hsource, -⟩ := checks_policy_iff.mp (s.fits .policies old hold)
  have hvalue' : p.ruleValue.length ≤ 255 := by
    have heq : old.ruleValue = p.ruleValue := h.ruleValue
    exact heq ▸ length_of_varchar hvalue
  have hsource' : p.setRequestSource.length ≤ 255 :=
    length_of_varchar (hsource p.setRequestSource h.setRequestSource)
  unfold PolicyMsg.kept
  rw [cut_of_length_le hvalue', cut_of_length_le hsource']

end Storable

/-- The request succeeds, and `GetPolicy` answers with what it asked for. -/
def SavesAsAsked (cfg : Config) (env : Env) (w : World) (p : PolicyMsg) : Prop :=
  ∃ w', (Server.createOrUpdatePolicy p).run (mysql env) w = (some (.ok ()), w') ∧
    ReadsBack w'.db (p.withDefault cfg)

/-- The fallback group that is stored is the one to be shown. -/
def FallbackRight (cfg : Config) (p : PolicyMsg) : Prop :=
  p.fallbackGroup ≠ "" ∨ cfg.defaultRoutingGroup = ""

theorem fallback_shown_iff {cfg : Config} {p : PolicyMsg} :
    p.fallbackGroup = (p.withDefault cfg).fallbackGroup ↔ FallbackRight cfg p := by
  unfold PolicyMsg.withDefault FallbackRight
  by_cases h : p.fallbackGroup = ""
  · rw [if_pos h, h]
    exact ⟨fun hd => Or.inr hd.symm, fun hd => (hd.resolve_left (not_not_intro rfl)).symm⟩
  · rw [if_neg h]
    exact iff_of_true rfl (Or.inl h)

/-- No empty value of the request leaves a value of the old row. -/
def LeavesNothing (old : Policy) (p : PolicyMsg) : Prop :=
  (p.ruleValue = "" → old.ruleValue = "") ∧ (p.group = "" → old.groupId = "")

/-- The row that a request inserts shows the message if its texts are kept as they are, but for the
fallback group. -/
theorem shows_inserted_iff {cfg : Config} {db : Db} {p : PolicyMsg} (hp : Asks cfg db p) (now : ℤ) :
    (Tbl.policies.stored (Tbl.policies.onInsert now (policyOf (createParams p)))).Shows
      (p.withDefault cfg) ↔ p.kept = p ∧ FallbackRight cfg p := by
  rw [← fallback_shown_iff]
  constructor
  · intro h
    have hvalue : cut 255 p.ruleValue = p.ruleValue := h.ruleValue
    have hsource : cut 255 p.setRequestSource = p.setRequestSource :=
      Option.some.inj h.setRequestSource
    refine ⟨?_, Option.some.inj h.fallbackGroupId⟩
    unfold PolicyMsg.kept
    rw [hvalue, hsource]
  · rintro ⟨hkept, hfallback⟩
    exact ⟨(ruleType_round_trip hp.ruleType).2, congrArg PolicyMsg.ruleValue hkept, rfl,
      congrArg some hfallback, rfl, rfl, congrArg some (congrArg PolicyMsg.setRequestSource hkept)⟩

/-- A text that is written comes out as it went in. -/
theorem textField_eq_iff (new : String) {old : String} (hold : old.length ≤ 255) :
    textField 255 new old = new ↔ cut 255 new = new ∧ (new = "" → old = "") := by
  unfold textField
  by_cases hnew : new = ""
  · rw [if_pos (Or.inl hnew), hnew, cut_of_length_le (Nat.zero_le 255)]
    simp
  · by_cases hsame : new = old
    · rw [if_pos (Or.inr hsame), hsame, cut_of_length_le hold]
      simp
    · rw [if_neg (not_or.mpr ⟨hnew, hsame⟩)]
      exact (and_iff_left fun hc => absurd hc hnew).symm

theorem textPointer_eq_iff (new : String) {old : Option String}
    (hold : ∀ s, old = some s → s.length ≤ 255) :
    textPointer 255 (some new) old = some new ↔ cut 255 new = new := by
  rcases textPointer_some 255 new old with h | ⟨hsame, h⟩
  · rw [h, Option.some.injEq]
  · rw [h, hsame]
    exact iff_of_true rfl (cut_of_length_le (hold new hsame))

/-- The row that a request updates shows the message if its texts are kept as they are and nothing
of the old row is left. -/
theorem shows_updated_iff {cfg : Config} {s : SchemaDb} {p : PolicyMsg} (hp : Asks cfg s.db p)
    {old : Policy} (hold : old ∈ s.db.policies) (now : ℤ) :
    (Tbl.policies.stored (Tbl.policies.onUpdate now old (policyOf (createParams p)))).Shows
      (p.withDefault cfg) ↔ p.kept = p ∧ FallbackRight cfg p ∧ LeavesNothing old p := by
  obtain ⟨-, -, hvalue, -, -, hsource, -⟩ := checks_policy_iff.mp (s.fits .policies old hold)
  obtain ⟨hname, htype⟩ := ruleType_round_trip hp.ruleType
  have hvalues := textField_eq_iff p.ruleValue (length_of_varchar hvalue)
  have hsources := textPointer_eq_iff p.setRequestSource
    fun s hs => length_of_varchar (hsource s hs)
  have hgroups : nonZero "" p.group old.groupId = p.group ↔ (p.group = "" → old.groupId = "") :=
    nonZero_eq_iff _ _
  rw [← fallback_shown_iff, LeavesNothing, ← hgroups]
  constructor
  · intro h
    obtain ⟨hcut, hempty⟩ := hvalues.mp h.ruleValue
    have hcut' := hsources.mp h.setRequestSource
    refine ⟨?_, Option.some.inj h.fallbackGroupId, hempty, h.groupId⟩
    unfold PolicyMsg.kept
    rw [hcut, hcut']
  · rintro ⟨hkept, hfallback, hempty, hgroup⟩
    have hcut : cut 255 p.ruleValue = p.ruleValue := congrArg PolicyMsg.ruleValue hkept
    have hcut' : cut 255 p.setRequestSource = p.setRequestSource :=
      congrArg PolicyMsg.setRequestSource hkept
    refine ⟨?_, hvalues.mpr ⟨hcut, hempty⟩, hgroup, congrArg some hfallback, rfl, rfl,
      hsources.mpr hcut'⟩
    simp only [Tbl.stored, Tbl.onUpdate, policyOf, createParams, nonZero_ne hname]
    exact htype

/-- A request for a new policy inserts its row, if MySQL takes it, and has an error otherwise. -/
theorem run_createOrUpdatePolicy_none {cfg : Config} {s : SchemaDb} {p : PolicyMsg}
    (hp : Asks cfg s.db p) (hnone : s.db.find .policies p.id = none) (clock : ℕ → ℤ) (tick : ℕ) :
    ∃ res w', (Server.createOrUpdatePolicy p).run (mysql (.available clock)) ⟨s.db, tick⟩ =
        (some res, w') ∧
      ((Storable s.db (clock (tick + 1)) p.kept ∧ res = .ok () ∧ w'.db.find .policies p.id =
          some (Tbl.policies.stored
            (Tbl.policies.onInsert (clock (tick + 1)) (policyOf (createParams p))))) ∨
        (¬ Storable s.db (clock (tick + 1)) p.kept ∧ ∃ e, res = .error e)) := by
  have hfails : (Env.available clock).faults tick ≠ none ∨ s.db.find .policies p.id = none :=
    Or.inr hnone
  obtain ⟨e, hfind⟩ := Spine.run_findByID_none (.available clock) ⟨s.db, tick⟩ hfails
  have hcall : (Server.createOrUpdatePolicy p).run (mysql (.available clock)) ⟨s.db, tick⟩ =
      (PolicyRepo.create (policyOf (createParams p))).run (mysql (.available clock))
        (World.next ⟨s.db, tick⟩) := hfind _
  rw [← insert_taken_iff hp (clock (tick + 1)), hcall]
  rcases Repo.create_cases (.available clock) (World.next ⟨s.db, tick⟩) (t := .policies)
    (policyOf (createParams p)) rfl rfl with
    ⟨r, -, ha, hrun⟩ | ⟨hno, e, hrun⟩
  · obtain ⟨rfl, -, -⟩ := Db.accept_ok ha
    exact ⟨_, _, hrun, Or.inl ⟨⟨_, ha⟩, rfl, Db.find_append (t := .policies) hnone⟩⟩
  · exact ⟨_, _, hrun, Or.inr ⟨fun hr => hno ⟨rfl, hnone, hr⟩, e, rfl⟩⟩

/-- A request for a stored policy succeeds; it updates the row, if MySQL takes it, and leaves it
otherwise. -/
theorem run_createOrUpdatePolicy_some {cfg : Config} {s : SchemaDb} {p : PolicyMsg}
    (hp : Asks cfg s.db p) {old : Policy} (hold : s.db.find .policies p.id = some old)
    (clock : ℕ → ℤ) (tick : ℕ) :
    ∃ w', (Server.createOrUpdatePolicy p).run (mysql (.available clock)) ⟨s.db, tick⟩ =
        (some (.ok ()), w') ∧
      ((Storable s.db (clock (tick + 1)) p.kept ∧ w'.db.find .policies p.id =
          some (Tbl.policies.stored
            (Tbl.policies.onUpdate (clock (tick + 1)) old (policyOf (createParams p))))) ∨
        (¬ Storable s.db (clock (tick + 1)) p.kept ∧ w'.db.find .policies p.id = some old)) := by
  have hcall : (Server.createOrUpdatePolicy p).run (mysql (.available clock)) ⟨s.db, tick⟩ =
      (PolicyRepo.update (policyOf (createParams p))).run (mysql (.available clock))
        (World.next ⟨s.db, tick⟩) :=
    Spine.run_findByID_some (.available clock) ⟨s.db, tick⟩ rfl hold _
  have hid : Tbl.policies.id old = p.id := Db.find_id hold
  rw [← update_taken_iff hp hold (clock (tick + 1)), hcall]
  have hfound : s.db.find .policies (Tbl.policies.id (policyOf (createParams p))) = some old := hold
  rcases Repo.update_cases (.available clock) (World.next ⟨s.db, tick⟩) hfound rfl with
    ⟨r, -, ha, hrun⟩ | ⟨hno, hrun⟩
  · obtain ⟨rfl, -, -⟩ := Db.accept_ok ha
    exact ⟨_, hrun, Or.inl ⟨⟨_, ha⟩, Db.find_put hold hid⟩⟩
  · exact ⟨_, hrun, Or.inr ⟨fun hr => hno ⟨rfl, hp.id, hr⟩, hold⟩⟩

theorem savesAsAsked_iff_of_run {cfg : Config} {env : Env} {w w' : World} {p : PolicyMsg}
    {res : Result Unit}
    (hrun : (Server.createOrUpdatePolicy p).run (mysql env) w = (some res, w')) :
    SavesAsAsked cfg env w p ↔ res = .ok () ∧ ReadsBack w'.db (p.withDefault cfg) := by
  unfold SavesAsAsked
  rw [hrun]
  constructor
  · rintro ⟨w₁, hw₁, hreads⟩
    obtain ⟨hres, rfl⟩ := Prod.mk.inj hw₁
    exact ⟨Option.some.inj hres, hreads⟩
  · rintro ⟨rfl, hreads⟩
    exact ⟨w', rfl, hreads⟩

/-- What is read back is the row that is stored. -/
theorem readsBack_iff_of_find {db : Db} {p : PolicyMsg} {row : Policy}
    (hrow : db.find .policies p.id = some row) : ReadsBack db p ↔ row.Shows p := by
  rw [readsBack_iff]
  constructor
  · rintro ⟨row', hrow', hshows⟩
    obtain rfl := Option.some.inj (hrow.symm.trans hrow')
    exact hshows
  · exact fun hshows => ⟨row, hrow, hshows⟩

/-- **A policy reads back as it was saved exactly if**

* it is new: MySQL takes the row, and the fallback group is right;
* it is stored: so it is, and no empty value leaves an old one; or the `UPDATE` fails, and the
  old row was right already. -/
theorem createOrUpdatePolicy_declarative_iff (cfg : Config) (s : SchemaDb) (p : PolicyMsg)
    (clock : ℕ → ℤ) (tick : ℕ) (hp : Asks cfg s.db p) :
    SavesAsAsked cfg (.available clock) ⟨s.db, tick⟩ p ↔
      (s.db.find .policies p.id = none → Storable s.db (clock (tick + 1)) p ∧ FallbackRight cfg p) ∧
      ∀ old, s.db.find .policies p.id = some old →
        (Storable s.db (clock (tick + 1)) p ∧ FallbackRight cfg p ∧ LeavesNothing old p) ∨
        (¬ Storable s.db (clock (tick + 1)) p ∧ old.Shows (p.withDefault cfg)) := by
  cases hold : s.db.find .policies p.id with
  | none =>
    obtain ⟨res, w', hrun, hcases⟩ := run_createOrUpdatePolicy_none hp hold clock tick
    simp only [forall_const, reduceCtorEq, false_imp_iff, implies_true, and_true]
    rw [savesAsAsked_iff_of_run hrun]
    rcases hcases with ⟨htakes, rfl, hrow⟩ | ⟨hno, e, rfl⟩
    · rw [readsBack_iff_of_find (p := p.withDefault cfg) hrow, shows_inserted_iff hp,
        and_iff_right rfl]
      refine and_congr_left fun _ => ⟨fun hkept => hkept ▸ htakes, fun hp => hp.kept_eq⟩
    · exact iff_of_false (fun hc => by cases hc.1) fun h => hno (h.1.kept_eq.symm ▸ h.1)
  | some old =>
    obtain ⟨w', hrun, hcases⟩ := run_createOrUpdatePolicy_some hp hold clock tick
    simp only [reduceCtorEq, false_imp_iff, true_and, Option.some.injEq, forall_eq']
    rw [savesAsAsked_iff_of_run hrun, and_iff_right rfl]
    have hmem : old ∈ s.db.policies := Db.mem_of_find (t := .policies) hold
    rcases hcases with ⟨htakes, hrow⟩ | ⟨hno, hrow⟩
    · rw [readsBack_iff_of_find (p := p.withDefault cfg) hrow, shows_updated_iff hp hmem]
      by_cases hkept : p.kept = p
      · have hstorable : Storable s.db (clock (tick + 1)) p := hkept ▸ htakes
        rw [or_iff_left fun h => h.1 hstorable, and_iff_right hkept, and_iff_right hstorable]
      · -- a text that is cut off does not read back, and is not in the old row either
        refine iff_of_false (fun h => hkept h.1) ?_
        rintro (⟨hstorable, -⟩ | ⟨-, hshows⟩)
        · exact hkept hstorable.kept_eq
        · exact hkept (kept_eq_of_shows hmem hshows)
    · have hno' : ¬ Storable s.db (clock (tick + 1)) p := fun h => hno (h.kept_eq.symm ▸ h)
      rw [readsBack_iff_of_find (p := p.withDefault cfg) hrow, or_iff_right fun h => hno' h.1,
        and_iff_right hno']

/-- A gateway with one group, the default one. -/
def oneGroup : SchemaDb where
  db := { groups := [{ id := "adhoc", strategy := some "random", isEnabled := some true,
                       lastRoutedBackend := some "" }] }
  consistent := by decide
  fits := by decide

def adhocConfig : Config := { defaultRoutingGroup := "adhoc", statsValiditySecs := 0 }

/-- A policy for a port, with its fallback group. -/
def portPolicy : PolicyMsg :=
  { id := "etl", ruleType := 3, ruleValue := "8080", group := "adhoc", fallbackGroup := "adhoc",
    isEnabled := true }

/-- It is stored, and read back. -/
theorem portPolicy_saved :
    SavesAsAsked adhocConfig (.available fun _ => 0) ⟨oneGroup.db, 0⟩ portPolicy :=
  (createOrUpdatePolicy_declarative_iff adhocConfig oneGroup portPolicy (fun _ => 0) 0
    ⟨by decide, by decide, by decide, by decide, by decide⟩).mpr
      ⟨fun _ => ⟨⟨by decide, by decide, by decide, by decide, by decide, by decide⟩,
        Or.inl (by decide)⟩, fun _ hc => by cases hc⟩

/-- A policy for a host, which the API has a rule type for. -/
def hostPolicy : PolicyMsg :=
  { id := "etl", ruleType := 2, ruleValue := "etl.example.com", group := "adhoc",
    fallbackGroup := "adhoc", isEnabled := true }

/-- The rule type is in no `ENUM`, and the request fails. -/
theorem hostPolicy_refused :
    Asks adhocConfig oneGroup.db hostPolicy ∧
      ¬ SavesAsAsked adhocConfig (.available fun _ => 0) ⟨oneGroup.db, 0⟩ hostPolicy := by
  refine ⟨⟨by decide, by decide, by decide, by decide, by decide⟩, ?_⟩
  rintro ⟨w', hrun, -⟩
  have hfails : (Server.createOrUpdatePolicy hostPolicy).run (mysql (.available fun _ => 0))
      ⟨oneGroup.db, 0⟩ = (some (.error (.db (.mysql 1265))), ⟨oneGroup.db, 2⟩) := by decide
  rw [hfails] at hrun
  cases hrun

end PolicyApi

end TrinoGateway
