import TrinoGateway.Lib.Pool
import TrinoGateway.Proof.GroupRoundTrip
import Mathlib.Data.Set.Basic

/-!
# Two requests for one group

A request is several statements, and another request's may come in between. `GroupRace` is the
model of a request as phases, over what the database holds of the group: whose row, and which
backends. `Inv` holds of every interleaving of two requests, and each statement of the programs
is a `Move` of the model (`move_of_step`).

`createOrUpdateGroup_race`: when both requests are over **the row is that of one of them, and the
backends are its own or those of both**; one of the requests may have failed to insert the row.
-/

namespace TrinoGateway

open Interact Prog

namespace GroupRace

/-- Where a request stands. -/
inductive Phase
  | start
  | loading
  | inserting
  | mapping
  | stamping
  | adding
  | detaching
  | updating
  | resaving
  | saved
  | duplicate
deriving DecidableEq

/-- What the database holds of the group: the row of a request, the one of before (`some none`), or
none; and its backends. -/
structure Held where
  writer : Option (Option Bool)
  backends : Set String

/-- The backends of a request. -/
def wanted (lists : Bool → List String) (i : Bool) : Set String := {b | b ∈ lists i}

/-- The backends of both. -/
def union (lists : Bool → List String) : Set String := wanted lists true ∪ wanted lists false

/-- The steps of request `i`. A request without backends has no statements for them. -/
inductive Move (lists : Bool → List String) (i : Bool) : Phase → Held → Phase → Held → Prop
  | found {h : Held} (hrow : h.writer ≠ none) : Move lists i .start h .loading h
  | missing {h : Held} (hrow : h.writer = none) : Move lists i .start h .inserting h
  | loaded {h : Held} :
      Move lists i .loading h (if lists i = [] then .updating else .stamping) h
  | inserted {h : Held} (hrow : h.writer = none) :
      Move lists i .inserting h (if lists i = [] then .saved else .mapping)
        { h with writer := some (some i) }
  | duplicate {h : Held} (hrow : h.writer ≠ none) : Move lists i .inserting h .duplicate h
  | mapped {h : Held} :
      Move lists i .mapping h .saved { h with backends := h.backends ∪ wanted lists i }
  | stamped {h : Held} : Move lists i .stamping h .adding h
  | added {h : Held} :
      Move lists i .adding h .detaching { h with backends := h.backends ∪ wanted lists i }
  | detached {h : Held} :
      Move lists i .detaching h .updating { h with backends := h.backends ∩ wanted lists i }
  | updated {h : Held} :
      Move lists i .updating h (if lists i = [] then .saved else .resaving)
        { h with writer := some (some i) }
  | resaved {h : Held} :
      Move lists i .resaving h .saved { h with backends := h.backends ∪ wanted lists i }

/-- The request has added its backends, if it has some. -/
def Phase.Added (φ : Phase) : Prop :=
  φ = .detaching ∨ φ = .updating ∨ φ = .resaving ∨ φ = .saved

/-- The request has taken away the backends that it does not want, if it wants some. -/
def Phase.Detached (φ : Phase) : Prop := φ = .updating ∨ φ = .resaving ∨ φ = .saved

/-- The request has written its row. -/
def Phase.Wrote (φ : Phase) : Prop := φ = .mapping ∨ φ = .resaving ∨ φ = .saved

/-- The request has inserted the row, or is over. -/
def Phase.Inserted (φ : Phase) : Prop := φ = .mapping ∨ φ = .saved

/-- What the database held before: the backends of the group, if there was one. -/
def Held.before (old : Option (Set String)) : Held where
  writer := old.map fun _ => none
  backends := old.getD ∅

/-- What holds of request `i` in phase `φ` while the other one is in phase `ψ`, where `old` are the
backends that the group had before, if there was one. -/
structure Own (lists : Bool → List String) (old : Option (Set String)) (i : Bool) (φ ψ : Phase)
    (h : Held) : Prop where
  row : φ ≠ .start → φ ≠ .inserting → h.writer ≠ none
  new : φ = .inserting ∨ φ = .mapping ∨ φ = .duplicate → old = none
  -- a request that finds a new group finds the row that the other one has inserted
  found : φ = .loading ∨ φ = .stamping ∨ φ = .adding ∨ φ = .detaching ∨ φ = .updating ∨
    φ = .resaving → old = none → ψ.Inserted
  lost : φ = .duplicate → ψ.Inserted
  wrote : h.writer = some (some i) → φ.Wrote
  written : φ.Wrote ∨ φ = .duplicate → ∃ j, h.writer = some (some j)
  -- only the other one takes backends away, and its row follows
  kept : φ = .saved → wanted lists i ⊆ h.backends ∨ (h.backends ⊆ wanted lists (!i) ∧
    (ψ = .updating ∨ (ψ = .resaving ∨ ψ = .saved) ∧ h.writer = some (some !i)))

/-- Where a backend comes from: a request has added it, or the group had it before and no request
has taken it away. -/
def Source (lists : Bool → List String) (old : Option (Set String)) (phases : Bool → Phase)
    (b : String) : Prop :=
  (∃ j, b ∈ wanted lists j ∧ (phases j).Added) ∨
    (b ∈ old.getD ∅ ∧ ∀ j, lists j ≠ [] → ¬ (phases j).Detached)

/-- What holds of two requests. -/
structure Inv (lists : Bool → List String) (old : Option (Set String)) (phases : Bool → Phase)
    (h : Held) : Prop where
  stays : h.writer = none → old = none
  fresh : old = none → h.writer ≠ some none
  source : ∀ b ∈ h.backends, Source lists old phases b
  own : ∀ i, Own lists old i (phases i) (phases !i) h

variable {lists : Bool → List String} {old : Option (Set String)} {h h' : Held}
  {phases : Bool → Phase} {i : Bool} {φ φ' ψ : Phase}

/-- The invariant of the beginning. -/
theorem Inv.start (lists : Bool → List String) (old : Option (Set String)) :
    Inv lists old (fun _ => .start) (.before old) where
  stays hnone := Option.map_eq_none_iff.mp hnone
  fresh hnone hold := by rw [hnone] at hold; cases hold
  source b hb := Or.inr ⟨hb, fun _ _ => by simp [Phase.Detached]⟩
  own i :=
    { row := absurd rfl
      new := by simp
      found := by simp
      lost := by simp
      wrote := fun hi => by cases old <;> cases hi
      written := by simp [Phase.Wrote]
      kept := by simp }

theorem wanted_eq_empty (hnil : lists i = []) : wanted lists i = ∅ := by
  simp [wanted, hnil]

theorem union_eq (i : Bool) : union lists = wanted lists i ∪ wanted lists (!i) := by
  cases i
  · exact Set.union_comm _ _
  · rfl

/-- The row of a new group is that of one of the requests. -/
theorem Inv.writer (hinv : Inv lists old phases h) (hold : old = none) (hrow : h.writer ≠ none)
    (i : Bool) : h.writer = some (some i) ∨ h.writer = some (some !i) := by
  obtain ⟨w, hw⟩ := Option.ne_none_iff_exists'.mp hrow
  cases w with
  | none => exact absurd hw (hinv.fresh hold)
  | some j =>
    rw [hw]
    cases i <;> cases j <;> simp

/-- What holds of the other request. -/
theorem Inv.other (hinv : Inv lists old phases h) (i : Bool) :
    Own lists old (!i) (phases !i) (phases i) h := by
  have hother := hinv.own (!i)
  rwa [Bool.not_not] at hother

/-- What holds of the request that moves. -/
theorem Own.move (hinv : Inv lists old phases h) (hm : Move lists i (phases i) h φ' h') :
    Own lists old i φ' (phases !i) h' := by
  obtain ⟨hrow, hnew, hfound, hlost, hwrote, hwritten, hkept⟩ := hinv.own i
  obtain ⟨hrow', hnew', hfound', hlost', hwrote', hwritten', hkept'⟩ := hinv.other i
  have hstays := hinv.stays
  have hwriter := fun hold hrow => hinv.writer hold hrow i
  generalize phases i = φ at *
  generalize phases (!i) = ψ at *
  constructor
  case row | new => cases hm <;> grind
  case found | lost | wrote | written => cases hm <;> grind [Phase.Inserted, Phase.Wrote]
  case kept =>
    have hempty : lists i = [] → wanted lists i ⊆ h.backends := fun hnil => by
      rw [wanted_eq_empty hnil]
      exact Set.empty_subset _
    cases hm with
    | mapped => exact fun _ => Or.inl Set.subset_union_right
    | resaved => exact fun _ => Or.inl Set.subset_union_right
    | _ => grind

/-- What holds of the request that waits. -/
theorem Own.wait (hinv : Inv lists old phases h) (hm : Move lists i (phases i) h φ' h') :
    Own lists old (!i) (phases !i) φ' h' := by
  obtain ⟨hrow, hnew, hfound, hlost, hwrote, hwritten, hkept⟩ := hinv.own i
  obtain ⟨hrow', hnew', hfound', hlost', hwrote', hwritten', hkept'⟩ := hinv.other i
  generalize phases i = φ at *
  generalize phases (!i) = ψ at *
  constructor
  case row | new => cases hm <;> grind
  case found | lost | wrote | written => cases hm <;> grind [Phase.Inserted, Phase.Wrote]
  case kept =>
    intro hsaved
    have hset := hkept' hsaved
    rw [Bool.not_not] at hset ⊢
    -- the backends of the request that waits are there, unless the other one takes them away
    cases hm with
    | mapped =>
      refine hset.imp (fun hsub => hsub.trans Set.subset_union_left) fun h => ?_
      simp at h
    | added =>
      refine hset.imp (fun hsub => hsub.trans Set.subset_union_left) fun h => ?_
      simp at h
    | detached => exact Or.inr ⟨Set.inter_subset_right, Or.inl rfl⟩
    | updated =>
      refine hset.imp_right fun h => ⟨h.1, Or.inr ⟨?_, rfl⟩⟩
      split
      · exact Or.inr rfl
      · exact Or.inl rfl
    | resaved =>
      refine hset.imp (fun hsub => hsub.trans Set.subset_union_left) fun h => ?_
      refine ⟨Set.union_subset h.1 subset_rfl, Or.inr ⟨Or.inr rfl, ?_⟩⟩
      simpa using h.2
    | _ => grind

/-- A step keeps where the backends come from. -/
theorem Inv.source_step (hinv : Inv lists old phases h) (hm : Move lists i (phases i) h φ' h')
    {b : String} (hb : b ∈ h'.backends) : Source lists old (Function.update phases i φ') b := by
  have hne : (!i) ≠ i := Bool.not_ne_self i
  have hadds : (phases i).Added → φ'.Added := by
    generalize phases i = φ at hm
    cases hm <;> grind [Phase.Added]
  have hnew := (hinv.own i).new
  have hwants : b ∈ wanted lists i → φ'.Added →
      Source lists old (Function.update phases i φ') b := by
    intro hb hφ'
    refine Or.inl ⟨i, hb, ?_⟩
    rwa [Function.update_self]
  have hstays : b ∈ h.backends →
      (lists i ≠ [] → φ'.Detached → (phases i).Detached ∨ old = none) →
      Source lists old (Function.update phases i φ') b := by
    intro hb hdetached
    rcases hinv.source b hb with ⟨j, hj, hφ⟩ | ⟨hold, hnot⟩
    · refine Or.inl ⟨j, hj, ?_⟩
      rcases Bool.eq_or_eq_not j i with rfl | rfl
      · rw [Function.update_self]
        exact hadds hφ
      · rwa [Function.update_of_ne hne]
    · refine Or.inr ⟨hold, fun j hj => ?_⟩
      rcases Bool.eq_or_eq_not j i with rfl | rfl
      · rw [Function.update_self]
        intro hφ'
        rcases hdetached hj hφ' with hφ | hnone
        · exact hnot _ hj hφ
        · rw [hnone] at hold
          exact absurd hold (Set.notMem_empty b)
      · rw [Function.update_of_ne hne]
        exact hnot _ hj
  clear hadds
  generalize phases i = φ at *
  cases hm with
  | mapped =>
    -- the group is new
    have hold : old = none := hnew (Or.inr (Or.inl rfl))
    rcases hb with hb | hb
    · exact hstays hb fun _ _ => Or.inr hold
    · exact hwants hb (by simp [Phase.Added])
  | added =>
    rcases hb with hb | hb
    · exact hstays hb (by simp [Phase.Detached])
    · exact hwants hb (by simp [Phase.Added])
  | detached => exact hwants hb.2 (by simp [Phase.Added])
  | resaved =>
    rcases hb with hb | hb
    · exact hstays hb fun _ _ => Or.inl (by simp [Phase.Detached])
    · exact hwants hb (by simp [Phase.Added])
  | _ =>
    refine hstays hb fun hne hφ' => ?_
    revert hφ'
    simp [Phase.Detached, hne]

/-- **A step keeps the invariant.** -/
theorem Inv.step (hinv : Inv lists old phases h) (hm : Move lists i (phases i) h φ' h') :
    Inv lists old (Function.update phases i φ') h' := by
  have hne : (!i) ≠ i := Bool.not_ne_self i
  have hmove := Own.move hinv hm
  have hwait := Own.wait hinv hm
  refine ⟨?_, ?_, fun b hb => hinv.source_step hm hb, fun j => ?_⟩
  · have hstays := hinv.stays
    generalize phases i = φ at hm
    cases hm <;> first | exact hstays | simp
  · have hfresh := hinv.fresh
    generalize phases i = φ at hm
    cases hm <;> first | exact hfresh | simp
  · rcases Bool.eq_or_eq_not j i with rfl | rfl
    · rwa [Function.update_self, Function.update_of_ne hne]
    · rwa [Function.update_of_ne hne, Bool.not_not, Function.update_self]

/-- When both requests are over, the group has only backends that a request has added. -/
theorem Inv.source_saved (hinv : Inv lists old phases h)
    (hover : ∀ i, phases i = .saved ∨ phases i = .duplicate)
    (hlists : (∃ j, lists j ≠ []) ∨ old.getD ∅ = ∅) {b : String} (hb : b ∈ h.backends) :
    ∃ j, b ∈ wanted lists j ∧ phases j = .saved := by
  rcases hinv.source b hb with ⟨j, hj, hφ⟩ | ⟨hold, hnot⟩
  · refine ⟨j, hj, (hover j).resolve_right fun hdup => ?_⟩
    rw [hdup] at hφ
    exact absurd hφ (by simp [Phase.Added])
  · exfalso
    rcases hlists with ⟨j, hne⟩ | hempty
    · rcases hover j with hsaved | hdup
      · exact hnot j hne (by simp [hsaved, Phase.Detached])
      · -- a request that has failed has not found the group
        rw [(hinv.own j).new (Or.inr (Or.inr hdup))] at hold
        exact absurd hold (Set.notMem_empty b)
    · rw [hempty] at hold
      exact absurd hold (Set.notMem_empty b)

/-- **What two requests leave** when both are over. -/
theorem Inv.outcome (hinv : Inv lists old phases h)
    (hover : ∀ i, phases i = .saved ∨ phases i = .duplicate) :
    ∃ i, phases i = .saved ∧ h.writer = some (some i) ∧
      ((∃ j, lists j ≠ []) ∨ old.getD ∅ = ∅ →
        h.backends = wanted lists i ∨ h.backends = union lists) := by
  obtain ⟨i, hi⟩ : ∃ i, h.writer = some (some i) := by
    refine (hinv.own true).written ?_
    exact (hover true).imp_left fun hsaved => Or.inr (Or.inr hsaved)
  have hsaved : phases i = .saved := by
    refine (hover i).resolve_right fun hdup => ?_
    have hwrote := (hinv.own i).wrote hi
    rw [hdup] at hwrote
    exact absurd hwrote (by simp [Phase.Wrote])
  refine ⟨i, hsaved, hi, fun hlists => ?_⟩
  have hsource := fun b hb => hinv.source_saved hover hlists (b := b) hb
  have hkept : wanted lists i ⊆ h.backends := by
    refine ((hinv.own i).kept hsaved).resolve_right ?_
    rintro ⟨-, hupdating | ⟨-, hwriter⟩⟩
    · rcases hover (!i) with hφ | hφ <;> rw [hφ] at hupdating <;> cases hupdating
    · rw [hi] at hwriter
      exact Bool.not_ne_self i (Option.some.inj (Option.some.inj hwriter)).symm
  rcases hover (!i) with hsaved' | hdup
  · rcases (hinv.other i).kept hsaved' with hkept' | ⟨hsub, -⟩
    · right
      rw [union_eq i]
      refine Set.Subset.antisymm (fun b hb => ?_) (Set.union_subset hkept hkept')
      obtain ⟨j, hj, -⟩ := hsource b hb
      rcases Bool.eq_or_eq_not j i with rfl | rfl
      · exact Or.inl hj
      · exact Or.inr hj
    · -- the request of the row has taken away what it does not want
      rw [Bool.not_not] at hsub
      exact Or.inl (Set.Subset.antisymm hsub hkept)
  · left
    refine Set.Subset.antisymm (fun b hb => ?_) hkept
    obtain ⟨j, hj, hφ⟩ := hsource b hb
    rcases Bool.eq_or_eq_not j i with rfl | rfl
    · exact hj
    · rw [hdup] at hφ
      cases hφ

/-- A request that fails leaves the other one to succeed, on a new group. -/
theorem Inv.duplicate (hinv : Inv lists old phases h)
    (hover : ∀ i, phases i = .saved ∨ phases i = .duplicate) (hi : phases i = .duplicate) :
    old = none ∧ phases (!i) = .saved := by
  refine ⟨(hinv.own i).new (Or.inr (Or.inr hi)), ?_⟩
  rcases (hinv.own i).lost hi with hφ | hφ
  · rcases hover (!i) with hφ' | hφ' <;> rw [hφ] at hφ' <;> cases hφ'
  · exact hφ

/-- What a request does once it has looked for the group. -/
def save (p : GroupApi.GroupCreateParams) : Result Group → Srv (Result Unit)
  | .ok _ => GroupRepo.update (GroupApi.groupOf p)
  | .error _ => GroupRepo.create (GroupApi.groupOf p)

/-- The program of a request in a phase. -/
def Runs (p : GroupApi.GroupCreateParams) : Phase → Srv (Result Unit) → Prop
  | .start, q => q = GroupApi.createOrUpdateGroup p
  | .loading, q => ∃ row : Group, q =
      ((Spine.preload [row]).andThen fun gs => return .ok (gs.headD row)).bind (save p)
  | .inserting, q => q = GroupRepo.create (GroupApi.groupOf p)
  | .mapping, q => q =
      .op (.insertMappings (requestMappings p)) fun a => ret (Spine.getDBError a.error)
  | .stamping, q => p.backends ≠ [] ∧ q = GroupRepo.update (GroupApi.groupOf p)
  | .adding, q => ∃ f, q = .op (.insertMappings (requestMappings p)) f ∧
      ∀ a : StmtResult, a.error = none → f a =
        .op (.detachMappings p.id (requestMappings p)) fun _ =>
          Repo.update .groups (GroupApi.groupOf p)
  | .detaching, q => q = .op (.detachMappings p.id (requestMappings p)) fun _ =>
      Repo.update .groups (GroupApi.groupOf p)
  | .updating, q => q = Repo.update .groups (GroupApi.groupOf p)
  | .resaving, q => ∃ n, q = .op (.insertMappings (requestMappings p)) fun a =>
      ret (Repo.updateResult { error := a.error, rowsAffected := n })
  | .saved, q => q = ret (.ok ())
  | .duplicate, q => q = ret (.error (.db (.mysql 1062)))

end GroupRace

/-- MySQL refuses a write, other than the insertion of an id that is there. -/
def Stmt.Refused : (o : Stmt) → o.Ans → Prop
  | insert _ _, a => a.error ≠ none ∧ a.error ≠ some (.mysql 1062)
  | insertMappings _, a => a.error ≠ none
  | updates _ _, a => a.error ≠ none
  | detachMappings _ _, a => a.error ≠ none
  | delete _ _, a => a.error ≠ none
  | deleteMappings _, a => a.error ≠ none
  | _, _ => False

/-- No check of a group's columns fails with the number of a duplicate key. -/
theorem accept_group_ne {db : Db} {row : Group} {e : ℕ} (h : db.accept .groups row = .error e) :
    e ≠ 1062 := by
  unfold Db.accept at h
  split at h
  · rename_i e' hfirst
    obtain rfl : e' = e := Except.error.inj h
    obtain ⟨c, hc, rfl⟩ := exists_of_firstFailing hfirst
    have htext : ∀ x, (varchar 255 x).2 ≠ 1062 := fun x => by
      rcases varchar_number 255 x with h | h <;> rw [h] <;> decide
    have henum : ∀ x, (enum strategies x).2 ≠ 1062 := fun x => by simp [enum]
    simp only [Tbl.checks, List.mem_cons, List.not_mem_nil, or_false] at hc
    rcases hc with rfl | rfl | rfl | rfl | rfl
    · exact htext _
    · exact nullable_ne (by decide) henum _
    · exact nullable_ne (by decide) htext _
    · simp [int32]
    · simp [int32]
  · split at h
    · cases h
    · cases h
      decide

namespace GroupRace

section Programs

variable {p : GroupApi.GroupCreateParams} {q : Srv (Result Unit)} {o : Stmt}
  {k : o.Ans → Srv (Result Unit)} {a : o.Ans} {now : ℤ} {db db' : Db}

/-- The search for the row. -/
theorem step_start (hq : GroupApi.createOrUpdateGroup p = .op o k)
    (hs : exec now none o db = (a, db')) :
    db' = db ∧ ((db.find .groups p.id ≠ none ∧ Runs p .loading (k a)) ∨
      (db.find .groups p.id = none ∧ Runs p .inserting (k a))) := by
  have hop : ∃ f, GroupApi.createOrUpdateGroup p = .op (.first .groups p.id) f ∧
      (∀ row, Runs p .loading (f (.ok row))) ∧ ∀ e, Runs p .inserting (f (.error e)) :=
    ⟨_, rfl, fun row => ⟨row, rfl⟩, fun e => rfl⟩
  obtain ⟨f, hf, hok, herror⟩ := hop
  cases hf.symm.trans hq
  simp only [exec, Db.answer] at hs
  cases hrow : db.find .groups p.id with
  | none =>
    rw [hrow] at hs
    cases hs
    exact ⟨rfl, Or.inr ⟨rfl, herror _⟩⟩
  | some row =>
    rw [hrow] at hs
    cases hs
    exact ⟨rfl, Or.inl ⟨Option.some_ne_none row, hok row⟩⟩

/-- The read of the old mappings. -/
theorem step_loading (hq : Runs p .loading (.op o k)) (hs : exec now none o db = (a, db')) :
    db' = db ∧ Runs p (if p.backends = [] then .updating else .stamping) (k a) := by
  obtain ⟨row, hq⟩ := hq
  have hop : ∃ f, ((Spine.preload [row]).andThen fun gs => return .ok (gs.headD row)).bind (save p) =
      .op (.findMappings [row.id]) f ∧
      ∀ ms, f (.ok ms) = GroupRepo.update (GroupApi.groupOf p) :=
    ⟨_, rfl, fun ms => rfl⟩
  obtain ⟨f, hf, hok⟩ := hop
  cases hf.symm.trans hq.symm
  cases hs
  refine ⟨rfl, ?_⟩
  rw [hok]
  by_cases hnil : p.backends = []
  · rw [if_pos hnil]
    have hslice : (GroupApi.groupOf p).groupBackendsMappings = none :=
      if_pos (requestMappings_eq_nil.mpr hnil)
    rw [GroupRepo.update, hslice]
    rfl
  · rw [if_neg hnil]
    exact ⟨hnil, rfl⟩

/-- What follows the write of a request's row, where that is executed. -/
theorem saveAssociations_groupOf (p : GroupApi.GroupCreateParams) (n : ℕ) :
    Spine.saveAssociations (Spine.associations .groups (GroupApi.groupOf p)) { rowsAffected := n } =
      if p.backends = [] then ret { rowsAffected := n }
      else .op (.insertMappings (requestMappings p)) fun a =>
        ret { error := a.error, rowsAffected := n } := by
  rw [associations_groupOf]
  unfold Spine.saveAssociations
  by_cases hnil : p.backends = []
  · rw [if_pos hnil, requestMappings_eq_nil.mpr hnil]
    rfl
  · have hne : requestMappings p ≠ [] := fun hc => hnil (requestMappings_eq_nil.mp hc)
    rw [if_neg hnil, if_pos ⟨rfl, hne⟩]
    rfl

/-- The insertion of the row. -/
theorem step_inserting (hq : GroupRepo.create (GroupApi.groupOf p) = .op o k)
    (hs : exec now none o db = (a, db')) (hok : ¬ o.Refused a) :
    (db.find .groups p.id = none ∧ (∃ r, db'.find .groups p.id = some r ∧ r.Carries p) ∧
      db'.pairs = db.pairs ∧ Runs p (if p.backends = [] then .saved else .mapping) (k a)) ∨
    (db.find .groups p.id ≠ none ∧ db' = db ∧ Runs p .duplicate (k a)) := by
  have hop : GroupRepo.create (GroupApi.groupOf p) = .op (.insert .groups (GroupApi.groupOf p))
      fun a => (Spine.saveAssociations (Spine.associations .groups (GroupApi.groupOf p)) a).bind
        fun q => ret (Spine.getDBError q.error) := rfl
  cases hop.symm.trans hq
  cases ha : db.accept .groups (Tbl.groups.onInsert now (GroupApi.groupOf p)) with
  | error e =>
    simp only [exec, Db.answer, Db.insert, ha] at hs
    cases hs
    refine absurd ⟨Option.some_ne_none _, fun he => ?_⟩ hok
    exact accept_group_ne ha (DbErr.mysql.inj (Option.some.inj he))
  | ok r =>
    have hid : Tbl.groups.id (GroupApi.groupOf p) = p.id := rfl
    simp only [exec, Db.answer, Db.insert, ha, hid] at hs
    cases hrow : db.find .groups p.id with
    | some old =>
      rw [hrow] at hs
      cases hs
      exact Or.inr ⟨Option.some_ne_none old, rfl, rfl⟩
    | none =>
      rw [hrow] at hs
      cases hs
      refine Or.inl ⟨rfl, (rowSaved_append hrow ha).1, Db.pairs_setRows _ _ _, ?_⟩
      simp only [saveAssociations_groupOf]
      by_cases hnil : p.backends = []
      · rw [if_pos hnil, if_pos hnil]
        rfl
      · rw [if_neg hnil, if_neg hnil]
        rfl

/-- The insertion of the mappings. -/
theorem step_mappings {a : StmtResult} {now : ℤ}
    (hs : exec now none (.insertMappings (requestMappings p)) db = (a, db'))
    (hok : ¬ (Stmt.insertMappings (requestMappings p)).Refused a) :
    a.error = none ∧ (∀ g, db'.find .groups g = db.find .groups g) ∧
      ∀ b, (p.id, b) ∈ db'.pairs ↔ (p.id, b) ∈ db.pairs ∨ b ∈ p.backends := by
  rcases Db.exec_insertMappings db (requestMappings p) now none with ⟨-, hexec⟩ | ⟨-, e, hexec⟩
  · rw [hexec] at hs
    cases hs
    refine ⟨rfl, fun g => ?_, fun b => ?_⟩
    · rw [Db.find, Db.find, Db.rows_upsertMappings]
    · rw [Db.mem_pairs_upsertMappings, mem_pairs_requestMappings, and_iff_right rfl]
  · rw [hexec] at hs
    cases hs
    exact absurd (Option.some_ne_none _) hok

/-- The slice of a request with backends is not nil. -/
theorem slice_groupOf (hne : p.backends ≠ []) :
    (GroupApi.groupOf p).groupBackendsMappings = some (requestMappings p) :=
  if_neg fun hc => hne (requestMappings_eq_nil.mp hc)

/-- The stamp on the row, before the mappings are replaced. -/
theorem step_stamping (hrow : db.find .groups p.id ≠ none) (hne : p.backends ≠ [])
    (hq : GroupRepo.update (GroupApi.groupOf p) = .op o k)
    (hs : exec now none o db = (a, db')) (hok : ¬ o.Refused a) :
    (∃ old, db.find .groups p.id = some old ∧
        db'.find .groups p.id = some (old.touched now)) ∧
      db'.pairs = db.pairs ∧ Runs p .adding (k a) := by
  obtain ⟨old, hold⟩ := Option.ne_none_iff_exists'.mp hrow
  have hid : old.id = p.id := Db.find_id hold
  have hslice := slice_groupOf hne
  have hms : requestMappings p ≠ [] := fun hc => hne (requestMappings_eq_nil.mp hc)
  have hop : ∃ f, GroupRepo.update (GroupApi.groupOf p) = .op (.updates .groups { id := p.id }) f ∧
      ∀ n, Runs p .adding (f { rowsAffected := n }) := by
    rw [GroupRepo.update, hslice]
    refine ⟨_, rfl, fun n => ?_⟩
    simp only [Spine.saveAssociations, hms, ne_eq, not_false_eq_true]
    refine ⟨_, rfl, fun a ha => ?_⟩
    simp only [bind_eq, pure_eq, ret_bind, ha]
    rfl
  obtain ⟨f, hf, hrest⟩ := hop
  cases hf.symm.trans hq
  have hfound : db.find .groups (Tbl.id .groups { id := p.id }) = some old := hold
  rcases exec_updates hfound now none with ⟨r, -, ha, hexec⟩ | ⟨-, e, hexec⟩
  · have hr : r = old.touched now := by
      rw [old.touched_eq, hid]
      exact (Db.accept_ok ha).1
    rw [hexec, hr] at hs
    cases hs
    exact ⟨⟨old, hold, Db.find_put hold hid⟩, Db.pairs_setRows _ _ _, hrest _⟩
  · rw [hexec] at hs
    cases hs
    exact absurd (Option.some_ne_none _) hok

/-- The statement that detaches the old mappings. -/
theorem step_detaching {a : StmtResult}
    (hs : exec now none (.detachMappings p.id (requestMappings p)) db = (a, db')) :
    (∀ g, db'.find .groups g = db.find .groups g) ∧
      ∀ b, (p.id, b) ∈ db'.pairs ↔ (p.id, b) ∈ db.pairs ∧ b ∈ p.backends := by
  rcases Db.exec_detachMappings db p.id (requestMappings p) now none with
    ⟨-, n, hexec⟩ | ⟨hfault, -⟩
  · rw [hexec] at hs
    cases hs
    refine ⟨fun g => ?_, fun b => ?_⟩
    · rw [Db.find, Db.find, Db.rows_withMappings]
    · rw [mem_pairs_detached]
      exact and_congr_right fun _ => imp_iff_right rfl
  · exact absurd rfl hfault

/-- The update of the row. -/
theorem step_updating (hrow : db.find .groups p.id ≠ none)
    (hq : Repo.update .groups (GroupApi.groupOf p) = .op o k)
    (hs : exec now none o db = (a, db')) (hok : ¬ o.Refused a) :
    (∃ r, db'.find .groups p.id = some r ∧ r.Carries p) ∧ db'.pairs = db.pairs ∧
      Runs p (if p.backends = [] then .saved else .resaving) (k a) := by
  obtain ⟨old, hold⟩ := Option.ne_none_iff_exists'.mp hrow
  have hop : ∃ f, Repo.update .groups (GroupApi.groupOf p) =
      .op (.updates .groups (GroupApi.groupOf p)) f ∧
      ∀ a, f a = (Spine.saveAssociations (Spine.associations .groups (GroupApi.groupOf p)) a).bind
        fun q => ret (Repo.updateResult q) := by
    refine ⟨_, rfl, fun a => ?_⟩
    refine (bind_assoc (Spine.saveAssociations _ a) _ _).trans (congrArg _ (funext fun q => ?_))
    unfold Repo.updateResult
    by_cases hn : q.rowsAffected = 0
    · rw [if_pos hn, if_pos hn]
      rfl
    · rw [if_neg hn, if_neg hn]
      cases q.error with
      | none => rfl
      | some e => cases e <;> rfl
  obtain ⟨f, hf, hrest⟩ := hop
  cases hf.symm.trans hq
  have hfound : db.find .groups (Tbl.id .groups (GroupApi.groupOf p)) = some old := hold
  rcases exec_updates hfound now none with
    ⟨r, -, ha, hexec⟩ | ⟨-, e, hexec⟩
  · rw [hexec] at hs
    cases hs
    refine ⟨(rowSaved_put hold ha).1, Db.pairs_setRows _ _ _, ?_⟩
    rw [hrest, saveAssociations_groupOf]
    by_cases hnil : p.backends = []
    · rw [if_pos hnil, if_pos hnil]
      exact congrArg ret (Repo.updateResult_ok _)
    · rw [if_neg hnil, if_neg hnil]
      exact ⟨_, rfl⟩
  · rw [hexec] at hs
    cases hs
    exact absurd (Option.some_ne_none _) hok

end Programs

/-- The database holds of the group what the model says. -/
structure Link (params : Bool → GroupApi.GroupCreateParams) (id : String) (db : Db) (h : Held) :
    Prop where
  none : h.writer = none ↔ db.find .groups id = none
  row : ∀ i, h.writer = some (some i) → ∃ r, db.find .groups id = some r ∧ r.Carries (params i)
  backends : ∀ b, b ∈ h.backends ↔ (id, b) ∈ db.pairs

section Step

variable {params : Bool → GroupApi.GroupCreateParams} {id : String} {i : Bool} {φ : Phase}
  {h : Held} {db db' : Db}

/-- The row of request `i` has been written. -/
theorem Link.written (hl : Link params id db h)
    (hrow : ∃ r, db'.find .groups id = some r ∧ r.Carries (params i))
    (hpairs : db'.pairs = db.pairs) :
    Link params id db' { h with writer := some (some i) } where
  none := by
    obtain ⟨r, hr, -⟩ := hrow
    rw [hr]
    exact iff_of_false (Option.some_ne_none _) (Option.some_ne_none _)
  row j hj := by
    obtain rfl : i = j := Option.some.inj (Option.some.inj hj)
    exact hrow
  backends b := by
    rw [hpairs]
    exact hl.backends b

/-- The row has been stamped. -/
theorem Link.stamped (hl : Link params id db h) {old : Group} {now : ℤ}
    (hold : db.find .groups id = some old) (hrow : db'.find .groups id = some (old.touched now))
    (hpairs : db'.pairs = db.pairs) : Link params id db' h where
  none := by
    rw [hl.none, hold, hrow]
    exact iff_of_false (Option.some_ne_none _) (Option.some_ne_none _)
  row j hj := by
    obtain ⟨r, hr, hcarries⟩ := hl.row j hj
    obtain rfl := Option.some.inj (hr.symm.trans hold)
    exact ⟨_, hrow, hcarries.touched now⟩
  backends b := by
    rw [hpairs]
    exact hl.backends b

/-- The backends have been written. -/
theorem Link.mapped (hl : Link params id db h) {backends : Set String}
    (hrow : ∀ g, db'.find .groups g = db.find .groups g)
    (hpairs : ∀ b, b ∈ backends ↔ (id, b) ∈ db'.pairs) :
    Link params id db' { h with backends := backends } where
  none := by
    rw [hrow]
    exact hl.none
  row j hj := by
    rw [hrow]
    exact hl.row j hj
  backends := hpairs

/-- **Each statement of a request is a move of the model.** -/
theorem move_of_step (hid : ∀ i, (params i).id = id) (hl : Link params id db h)
    (hexists : φ ≠ .start → φ ≠ .inserting → h.writer ≠ none) {o : Stmt}
    {k : o.Ans → Srv (Result Unit)} {a : o.Ans} {now : ℤ} (hq : Runs (params i) φ (.op o k))
    (hs : exec now none o db = (a, db')) (hok : ¬ o.Refused a) :
    ∃ φ' h', Move (fun i => (params i).backends) i φ h φ' h' ∧ Runs (params i) φ' (k a) ∧
      Link params id db' h' := by
  have hadded : ∀ {db' : Db} {s : Set String}, (∀ b, b ∈ s ↔ (id, b) ∈ db.pairs) →
      (∀ b, ((params i).id, b) ∈ db'.pairs ↔ ((params i).id, b) ∈ db.pairs ∨
        b ∈ (params i).backends) →
      ∀ b, b ∈ s ∪ wanted (fun i => (params i).backends) i ↔ (id, b) ∈ db'.pairs := by
    intro db' s hs hpairs b
    rw [Set.mem_union, hs, ← hid i, hpairs]
    rfl
  cases φ with
  | start =>
    obtain ⟨rfl, ⟨hrow, hruns⟩ | ⟨hrow, hruns⟩⟩ := step_start hq.symm hs
    · rw [hid] at hrow
      exact ⟨_, h, .found (fun hc => hrow (hl.none.mp hc)), hruns, hl⟩
    · rw [hid] at hrow
      exact ⟨_, h, .missing (hl.none.mpr hrow), hruns, hl⟩
  | loading =>
    obtain ⟨rfl, hruns⟩ := step_loading hq hs
    exact ⟨_, h, .loaded, hruns, hl⟩
  | inserting =>
    rcases step_inserting hq.symm hs hok with ⟨hrow, hsaved, hpairs, hruns⟩ | ⟨hrow, rfl, hruns⟩
    · rw [hid] at hrow hsaved
      exact ⟨_, _, .inserted (hl.none.mpr hrow), hruns, hl.written hsaved hpairs⟩
    · rw [hid] at hrow
      exact ⟨_, h, .duplicate (fun hc => hrow (hl.none.mp hc)), hruns, hl⟩
  | mapping =>
    cases hq
    obtain ⟨ha, hrow, hpairs⟩ := step_mappings hs hok
    refine ⟨_, _, .mapped, ?_, hl.mapped hrow (hadded hl.backends hpairs)⟩
    change ret (Spine.getDBError a.error) = _
    rw [ha]
    rfl
  | stamping =>
    have hrow : db.find .groups (params i).id ≠ none := by
      rw [hid]
      exact fun hc => hexists (by simp) (by simp) (hl.none.mpr hc)
    obtain ⟨⟨old, hold, hnew⟩, hpairs, hruns⟩ := step_stamping hrow hq.1 hq.2.symm hs hok
    rw [hid] at hold hnew
    exact ⟨_, h, .stamped, hruns, hl.stamped hold hnew hpairs⟩
  | adding =>
    obtain ⟨f, hq, hrest⟩ := hq
    cases hq
    obtain ⟨ha, hrow, hpairs⟩ := step_mappings hs hok
    exact ⟨_, _, .added, hrest a ha, hl.mapped hrow (hadded hl.backends hpairs)⟩
  | detaching =>
    cases hq
    obtain ⟨hrow, hpairs⟩ := step_detaching hs
    refine ⟨_, _, .detached, rfl, hl.mapped hrow fun b => ?_⟩
    rw [Set.mem_inter_iff, hl.backends, ← hid i, hpairs]
    rfl
  | updating =>
    have hrow : db.find .groups (params i).id ≠ none := by
      rw [hid]
      exact fun hc => hexists (by simp) (by simp) (hl.none.mpr hc)
    obtain ⟨hsaved, hpairs, hruns⟩ := step_updating hrow hq.symm hs hok
    rw [hid] at hsaved
    exact ⟨_, _, .updated, hruns, hl.written hsaved hpairs⟩
  | resaving =>
    obtain ⟨n, hq⟩ := hq
    cases hq
    obtain ⟨ha, hrow, hpairs⟩ := step_mappings hs hok
    refine ⟨_, _, .resaved, ?_, hl.mapped hrow (hadded hl.backends hpairs)⟩
    change ret (Repo.updateResult { error := a.error, rowsAffected := n }) = _
    rw [ha, Repo.updateResult_ok]
  | saved => cases hq
  | duplicate => cases hq

end Step

end GroupRace

/-- Requests on one database, which no one else writes, and which refuses no write but the
insertion of an id that is there. -/
def groupSystem : System Bool Stmt Stmt.Ans Db where
  sem _ o db a db' := ∃ now, exec now none o db = (a, db') ∧ ¬ o.Refused a
  env _ _ := False

namespace GroupRace

/-- The backends of a group before the requests. -/
def oldBackends (db : Db) (id : String) : Option (Set String) :=
  (db.find .groups id).map fun _ => {b | (id, b) ∈ db.pairs}

/-- **What every interleaving of two requests reaches.** -/
theorem reachable_inv (s : ConsistentDb) {id : String} (params : Bool → GroupApi.GroupCreateParams)
    (hid : ∀ i, (params i).id = id) {P : Pool Bool Stmt Stmt.Ans (Result Unit) Db}
    (hr : groupSystem.Reachable ⟨fun i => GroupApi.createOrUpdateGroup (params i), s.db⟩ P) :
    ∃ phases h, (∀ i, Runs (params i) (phases i) (P.procs i)) ∧ Link params id P.state h ∧
      Inv (fun i => (params i).backends) (oldBackends s.db id) phases h := by
  unfold System.Reachable at hr
  induction hr with
  | refl =>
    refine ⟨fun _ => .start, _, fun i => rfl, ⟨?_, fun i hi => ?_, fun b => ?_⟩, Inv.start _ _⟩
    · simp [Held.before, oldBackends]
    · cases hrow : s.db.find .groups id <;> simp [Held.before, oldBackends, hrow] at hi
    · cases hrow : s.db.find .groups id with
      | none =>
        -- a group without a row has no mappings
        simp only [Held.before, oldBackends, hrow, Option.map_none, Option.getD_none]
        refine iff_of_false (Set.notMem_empty b) fun hb => ?_
        exact Db.find_eq_none_iff.mp hrow (s.consistent.pairRefs _ hb).1
      | some old =>
        simp only [Held.before, oldBackends, hrow, Option.map_some, Option.getD_some]
        exact Iff.rfl
  | tail _ hstep ih =>
    obtain ⟨phases, h, hruns, hlink, hinv⟩ := ih
    cases hstep with
    | op i hp hsem =>
      obtain ⟨now, hexec, hok⟩ := hsem
      have hq := hruns i
      rw [hp] at hq
      obtain ⟨φ', h', hmove, hruns', hlink'⟩ :=
        move_of_step hid hlink (hinv.own i).row hq hexec hok
      refine ⟨Function.update phases i φ', h', fun j => ?_, hlink', hinv.step hmove⟩
      by_cases hj : j = i
      · subst hj
        simpa only [Function.update_self] using hruns'
      · simpa only [Function.update_of_ne hj] using hruns j
    | env he => exact he.elim

/-- A request that has returned is over. -/
theorem over_of_ret {p : GroupApi.GroupCreateParams} {φ : Phase} {res : Result Unit}
    (h : Runs p φ (ret res)) :
    (φ = .saved ∧ res = .ok ()) ∨ (φ = .duplicate ∧ res = .error (.db (.mysql 1062))) := by
  cases φ with
  | saved => exact Or.inl ⟨rfl, Prog.ret.inj h⟩
  | duplicate => exact Or.inr ⟨rfl, Prog.ret.inj h⟩
  | loading =>
    obtain ⟨row, hq⟩ := h
    cases hq
  | stamping =>
    obtain ⟨hne, hq⟩ := h
    rw [GroupRepo.update, slice_groupOf hne] at hq
    cases hq
  | adding =>
    obtain ⟨f, hq, -⟩ := h
    cases hq
  | resaving =>
    obtain ⟨n, hq⟩ := h
    cases hq
  | _ => cases h

end GroupRace

/-- **Two requests for one group**, in any interleaving in which the database refuses no write but
the insertion of the row when it is there: each succeeds, unless the group is new and the other
one has inserted it; the row is that of a request that succeeded, as its columns keep it, and it
shows the message where they keep it as it is; and the backends are those of that request or those
of both, unless neither names any and the group had some. -/
theorem createOrUpdateGroup_race (s : ConsistentDb) {id : String} {reqs : Bool → GroupMsg}
    (hid : ∀ i, (reqs i).id = id) {P : Pool Bool Stmt Stmt.Ans (Result Unit) Db}
    (hr : groupSystem.Reachable ⟨fun i => GroupApi.Server.createOrUpdateGroup (reqs i), s.db⟩ P)
    {res : Bool → Result Unit} (hres : ∀ i, P.procs i = ret (res i)) :
    (∀ i, res i = .ok () ∨ (s.db.find .groups id = none ∧
      res i = .error (.db (.mysql 1062)) ∧ res (!i) = .ok ())) ∧
    ∃ i, res i = .ok () ∧ (∃ row, P.state.find .groups id = some row ∧
        row.Carries (GroupApi.createParams (reqs i)) ∧ ((reqs i).Exact → row.Shows (reqs i))) ∧
      ((∃ j, (reqs j).backends ≠ []) ∨ (∀ b, (id, b) ∉ s.db.pairs) →
        (∀ b, (id, b) ∈ P.state.pairs ↔ b ∈ (reqs i).backends) ∨
          ∀ b, (id, b) ∈ P.state.pairs ↔ ∃ j, b ∈ (reqs j).backends) := by
  obtain ⟨phases, h, hruns, hlink, hinv⟩ := GroupRace.reachable_inv s
    (fun i => GroupApi.createParams (reqs i)) hid hr
  have hret : ∀ i, (phases i = .saved ∧ res i = .ok ()) ∨
      (phases i = .duplicate ∧ res i = .error (.db (.mysql 1062))) := by
    intro i
    have hq := hruns i
    rw [hres] at hq
    exact GroupRace.over_of_ret hq
  have hover : ∀ i, phases i = .saved ∨ phases i = .duplicate := fun i =>
    (hret i).imp And.left And.left
  have hok : ∀ i, phases i = .saved → res i = .ok () := by
    intro i hi
    rcases hret i with ⟨-, hresi⟩ | ⟨hdup, -⟩
    · exact hresi
    · rw [hi] at hdup
      cases hdup
  refine ⟨fun i => ?_, ?_⟩
  · refine (hret i).imp And.right fun ⟨hdup, hresi⟩ => ?_
    obtain ⟨hnew, hother⟩ := hinv.duplicate hover hdup
    exact ⟨Option.map_eq_none_iff.mp hnew, hresi, hok _ hother⟩
  · obtain ⟨i, hi, hwriter, hbackends⟩ := hinv.outcome hover
    obtain ⟨r, hr, hcarries⟩ := hlink.row i hwriter
    refine ⟨i, hok i hi, ⟨r, hr, hcarries, (shows_of_carries hcarries).mpr⟩, fun hlists => ?_⟩
    have hold : (∃ j, (reqs j).backends ≠ []) ∨ (GroupRace.oldBackends s.db id).getD ∅ = ∅ := by
      refine hlists.imp_right fun hnone => ?_
      unfold GroupRace.oldBackends
      cases s.db.find .groups id with
      | none => rfl
      | some old => exact Set.eq_empty_of_forall_notMem hnone
    rcases hbackends hold with heq | heq
    · left
      intro b
      rw [← hlink.backends, heq]
      rfl
    · right
      intro b
      rw [← hlink.backends, heq, Bool.exists_bool, or_comm]
      rfl

instance (o : Stmt) (a : o.Ans) : Decidable (o.Refused a) := by
  cases o <;> unfold Stmt.Refused <;> infer_instance

/-- The handler of a run at one moment. -/
def groupHandler (_ : Bool) (o : Stmt) (db : Db) : o.Ans × Db := exec 1 none o db

def groupAllows (i : Bool) (o : Stmt) (db : Db) : Bool :=
  !decide (o.Refused (groupHandler i o db).1)

theorem groupHandler_sem (i : Bool) (o : Stmt) (db : Db) (h : groupAllows i o db = true) :
    groupSystem.sem i o db (groupHandler i o db).1 (groupHandler i o db).2 :=
  ⟨1, rfl, by simpa [groupAllows] using h⟩

/-- A group, and two backends. -/
def racedGroup : ConsistentDb where
  db :=
    { backends := [{ id := "trino-1" }, { id := "trino-2" }]
      groups := [{ id := "adhoc", strategy := some "random", isEnabled := some true,
                   lastRoutedBackend := some "" }] }
  consistent := by decide

/-- Each request wants one of the backends. -/
def racingRequests : Bool → GroupMsg
  | true => { id := "adhoc", strategy := 1, isEnabled := true, backends := ["trino-1"] }
  | false => { id := "adhoc", strategy := 2, isEnabled := true, backends := ["trino-2"] }

/-- Both requests have found the group, and replaced its backends, when the first one updates it and
then the second. Each saves its own backends once more. -/
def racedPool : Pool Bool Stmt Stmt.Ans (Result Unit) Db :=
  [true, true, false, false, true, true, true, false, false, false, true, true, false, false].foldl
    (System.performIf groupAllows groupHandler)
    ⟨fun i => GroupApi.Server.createOrUpdateGroup (racingRequests i), racedGroup.db⟩

theorem racedPool_reachable :
    groupSystem.Reachable
      ⟨fun i => GroupApi.Server.createOrUpdateGroup (racingRequests i), racedGroup.db⟩ racedPool :=
  System.foldl_performIf_reachable _ groupHandler_sem _ _

theorem racedPool_over (i : Bool) : racedPool.procs i = ret (.ok ()) := by
  cases i <;> rfl

/-- The race of the two requests ends with the row of one of them. -/
theorem racedPool_outcome :
    ∃ i, (∃ row, racedPool.state.find .groups "adhoc" = some row ∧
        row.Carries (GroupApi.createParams (racingRequests i)) ∧
        ((racingRequests i).Exact → row.Shows (racingRequests i))) ∧
      ((∀ b, ("adhoc", b) ∈ racedPool.state.pairs ↔ b ∈ (racingRequests i).backends) ∨
        ∀ b, ("adhoc", b) ∈ racedPool.state.pairs ↔ ∃ j, b ∈ (racingRequests j).backends) := by
  obtain ⟨-, i, -, hrow, hbackends⟩ := createOrUpdateGroup_race racedGroup
    (fun i => by cases i <;> rfl) racedPool_reachable racedPool_over
  exact ⟨i, hrow, hbackends (.inl ⟨true, by decide⟩)⟩

/-- Both requests succeed, and the group is that of neither: it has both backends. -/
theorem racedGroup_mixed :
    groupSystem.Reachable
      ⟨fun i => GroupApi.Server.createOrUpdateGroup (racingRequests i), racedGroup.db⟩ racedPool ∧
    (∀ i, racedPool.procs i = ret (.ok ())) ∧ ∀ i, ¬ ReadsBack racedPool.state (racingRequests i) := by
  refine ⟨racedPool_reachable, racedPool_over, fun i h => ?_⟩
  have hpairs := (readsBack_iff.mp h).2
  cases i with
  | true => exact absurd ((hpairs "trino-2").mp (by decide)) (by decide)
  | false => exact absurd ((hpairs "trino-1").mp (by decide)) (by decide)

end TrinoGateway
