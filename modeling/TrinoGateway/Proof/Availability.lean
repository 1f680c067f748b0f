import TrinoGateway.Proof.NullColumns
import TrinoGateway.Proof.PolicySets
import TrinoGateway.Proof.Provenance
import TrinoGateway.Proof.Schema
import TrinoGateway.Proof.Selection
import TrinoGateway.Proof.Tables

/-!
# What becomes of a new query

`Db.fate` says it from the tables alone: the query is routed to a group that has an active backend,
or it strays, or it is refused. `submission_fate`: **with an available database the director does
exactly this with every new query**, on all tables that keep the invariants of the API
(`Db.InOrder`), whatever the clock shows.

A query strays when the first group that is enabled and that the policies allow has no active
backend, and another such group has one. Then the director passes it on as it came.
-/

namespace TrinoGateway

open Interact Prog

/-- The policies allow the group to the client: some kind of them names groups for it, and each kind
that does names this one. -/
def Db.Admits (db : Db) (c : PolicyApi.EvaluateClientParams) (groupId : String) : Prop :=
  (∃ d ∈ c.dimensions, (PolicyApi.matchingGroups db d.1 d.2).Nonempty) ∧
    ∀ d ∈ c.dimensions, (PolicyApi.matchingGroups db d.1 d.2).Nonempty →
      groupId ∈ PolicyApi.matchingGroups db d.1 d.2

instance (db : Db) (c : PolicyApi.EvaluateClientParams) (groupId : String) :
    Decidable (db.Admits c groupId) :=
  inferInstanceAs (Decidable (_ ∧ _))

/-- The enabled groups that the policies allow, in the order of the table. -/
def Db.admitted (db : Db) (c : PolicyApi.EvaluateClientParams) : List Group :=
  db.groups.filter fun g => g.isEnabled = some true ∧ db.Admits c g.id

/-- What becomes of a new query. -/
inductive Fate
  | routed (groupId : String)
  | strayed (groupId : String)
  | refused
deriving DecidableEq, Repr

/-- The first of the groups is taken, whether it has an active backend or not. -/
def Db.headFate (db : Db) : List Group → Fate
  | [] => .refused
  | first :: _ => if db.activeIn first.id ≠ [] then .routed first.id else .strayed first.id

/-- The default group is asked when no other has an active backend. -/
def Db.defaultFate (cfg : Config) (db : Db) : Fate :=
  if db.activeIn cfg.defaultRoutingGroup ≠ [] then .routed cfg.defaultRoutingGroup else .refused

def Db.fateAmong (cfg : Config) (db : Db) (gs : List Group) : Fate :=
  if ∃ g ∈ gs, db.activeIn g.id ≠ [] then db.headFate gs else db.defaultFate cfg

def Db.fate (cfg : Config) (db : Db) (c : PolicyApi.EvaluateClientParams) : Fate :=
  db.fateAmong cfg (db.admitted c)

/-- The tables as the API keeps them. -/
structure Db.InOrder (db : Db) : Prop where
  consistent : db.Consistent
  nonNull : db.NonNull
  valid : db.BackendsValid

/-- A group with an active backend is stored. -/
theorem Db.Consistent.group_of_active {db : Db} (h : db.Consistent) {groupId : String}
    (hne : db.activeIn groupId ≠ []) : db.find .groups groupId ≠ none := by
  obtain ⟨b, hb⟩ := List.exists_mem_of_ne_nil _ hne
  obtain ⟨-, hmem⟩ := List.mem_filter.mp hb
  simp only [decide_eq_true_eq] at hmem
  obtain ⟨m, hm, -⟩ := List.mem_map.mp hmem.2.2
  obtain ⟨hm, hgroup⟩ := List.mem_filter.mp hm
  have hpair : (m.groupId, m.backendId) ∈ db.pairs := List.mem_map_of_mem hm
  have hstored := (h.pairRefs _ hpair).1
  rw [of_decide_eq_true hgroup] at hstored
  exact Option.isSome_iff_ne_none.mp (find_isSome_iff.mpr hstored)

section Answers

variable (g : GatewayServer) (clock : ℕ → ℤ) {w : World}

/-- The answer of an RPC whose handler returns. -/
theorem answer_of_run {o : RouterOp} {res : o.Ans} {w' : World}
    (h : (g.serve o).run (mysql (.available clock)) w = (some res, w')) :
    g.answer (.available clock) o w = (res, w') := by
  have hrun := serve_run_answer g (.available clock) o w
  rw [h] at hrun
  exact Prod.ext (Option.some.inj (congrArg Prod.fst hrun)).symm (congrArg Prod.snd hrun).symm

theorem run_rpc {α : Type} {p : Srv (Result α)} {res : Result α} {w' : World}
    (h : p.run (mysql (.available clock)) w = (some res, w')) :
    (rpc p).run (mysql (.available clock)) w = (some res, w') := by
  unfold rpc
  rw [run_recover, h]
  rfl

/-- The groups for a client are those that the policies admit. -/
theorem answer_groups (c : PolicyApi.EvaluateClientParams) :
    ∃ ids w', g.answer (.available clock) (.evaluateGroupsForClient c) w = (.ok ids, w') ∧
      w'.db = w.db ∧ ∀ id, id ∈ ids ↔ w.db.Admits c id := by
  refine ⟨_, _, answer_of_run g clock (run_rpc clock
    (PolicyApi.run_evaluateGroupsForClient clock g.ord w c)), rfl, fun id => ?_⟩
  have hnone : ∀ d, PolicyApi.policySet w.db d ≠ none ↔
      (PolicyApi.matchingGroups w.db d.1 d.2).Nonempty := fun d => PolicyApi.policySet_ne_none
  rw [g.ord.mem_keys, PolicyApi.GoSet.mem_elems, PolicyApi.foldl_ne_none, PolicyApi.foldl_allows]
  simp only [PolicyApi.policySet_allows, hnone]
  constructor
  · rintro ⟨hsome | hsome, -, hall⟩
    · exact absurd rfl hsome
    · exact ⟨hsome, hall⟩
  · rintro ⟨hsome, hall⟩
    exact ⟨Or.inr hsome, le_top, hall⟩

/-- What the choice of a backend answers. -/
def Fate.Chosen (db : Db) : Fate → Result (String × String) → Prop
  | .routed groupId, res => ∃ b ∈ db.activeIn groupId, res = .ok (b.id, groupId)
  | .strayed groupId, res => res = .ok ("", groupId)
  | .refused, res => ∃ err, res = .error err

section Choice

variable (cfg : Config)

theorem ready_of_nonNull {db : Db} (hdb : db.NonNull) {group : Group} (hg : group ∈ db.groups) :
    GroupApi.Ready cfg db group := by
  intro _
  have hnull : group.NonNull := hdb .groups group hg
  obtain ⟨strategy, hstrategy⟩ := Option.isSome_iff_exists.mp hnull.strategy
  refine ⟨strategy, hstrategy, fun _ => ?_, fun _ b hb => ?_⟩
  · exact Option.isSome_iff_ne_none.mp hnull.lastRoutedBackend
  · have hbackend : b.NonNull := hdb .backends b (List.mem_of_mem_filter hb)
    exact ⟨Option.isSome_iff_ne_none.mp hbackend.clusterLoad,
      fun _ => Option.isSome_iff_ne_none.mp hbackend.statsUpdatedAt⟩

/-- One group, on an available database: an active backend of it, if it has one. -/
theorem run_findBackend_available {w : World} (hdb : w.db.NonNull) {row : Group}
    (hrow : row ∈ w.db.groups) :
    ∃ b w', (GroupApi.findBackend cfg (w.db.withMappings row)).run (mysql (.available clock)) w =
        (some (.ok b), w') ∧ w.db.SameBackends w'.db ∧ GroupApi.Found w.db row.id b := by
  obtain ⟨r, w', hrun, hsame, hfound⟩ := GroupApi.findBackend_spec cfg (.available clock) w row
  rcases r with _ | err | b
  · exact absurd (ready_of_nonNull cfg hdb hrow) hfound
  · obtain ⟨k, hk⟩ := hfound
    exact absurd rfl hk
  · exact ⟨b, w', hrun, hsame, hfound⟩

/-- What is found for the first group is its fate. -/
theorem headFate_chosen {db : Db} {first : Group} {rest : List Group} {b : Option String}
    (hfound : GroupApi.Found db first.id b) :
    (db.headFate (first :: rest)).Chosen db (.ok (b.getD "", first.id)) := by
  show Fate.Chosen db (if db.activeIn first.id ≠ [] then _ else _) _
  cases b with
  | none =>
    rw [if_neg fun hne => hne hfound]
    exact rfl
  | some b =>
    obtain ⟨backend, hbackend, rfl⟩ := List.mem_map.mp hfound
    rw [if_pos (List.ne_nil_of_mem hbackend)]
    exact ⟨backend, hbackend, rfl⟩

theorem run_default {w : World} (hc : w.db.Consistent) (hn : w.db.NonNull) :
    ∃ res w', ((GroupApi.getGroup cfg.defaultRoutingGroup).andThen fun chosenGroup =>
        (GroupApi.findBackend cfg chosenGroup).andThen fun
          | none => return .error (.text "unable to find Backend for Default Routing Group")
          | some b => return .ok (b, chosenGroup.id)).run (mysql (.available clock)) w =
        (some res, w') ∧ w.db.SameBackends w'.db ∧ (w.db.defaultFate cfg).Chosen w.db res := by
  unfold Db.defaultFate
  obtain ⟨res, n, hget, hres⟩ :=
    GroupRepo.run_find (.available clock) w cfg.defaultRoutingGroup
  cases res with
  | error err =>
    have hnone : w.db.find .groups cfg.defaultRoutingGroup = none :=
      hres.resolve_right fun ⟨k, hk⟩ => hk rfl
    refine ⟨.error err, _, run_andThen_error _ hget, Db.SameBackends.refl _, ?_⟩
    rw [if_neg fun hne => hc.group_of_active hne hnone]
    exact ⟨err, rfl⟩
  | ok group =>
    obtain ⟨row, hrow, rfl⟩ := hres
    have hid : row.id = cfg.defaultRoutingGroup := Db.find_id hrow
    obtain ⟨b, w', hrun, hsame, hfound⟩ := run_findBackend_available clock cfg
      (w := { w with tick := n }) hn (Db.mem_of_find hrow)
    rw [GroupApi.getGroup, run_andThen_ok _ hget, run_andThen_ok _ hrun]
    rw [hid] at hfound
    cases b with
    | none =>
      refine ⟨_, w', rfl, hsame, ?_⟩
      rw [if_neg fun hne => hne hfound]
      exact ⟨_, rfl⟩
    | some b =>
      obtain ⟨backend, hbackend, rfl⟩ := List.mem_map.mp hfound
      refine ⟨_, w', rfl, hsame, ?_⟩
      rw [if_pos (List.ne_nil_of_mem hbackend)]
      exact ⟨backend, hbackend, by rw [← hid]; rfl⟩

/-- The answer depends on the active backends only. -/
theorem chosen_of_same {db db' : Db} (h : db.SameBackends db') {fate : Fate}
    {res : Result (String × String)} (hres : fate.Chosen db' res) : fate.Chosen db res := by
  cases fate with
  | routed groupId =>
    obtain ⟨b, hb, rfl⟩ := hres
    rw [h.activeIn] at hb
    exact ⟨b, hb, rfl⟩
  | strayed groupId => exact hres
  | refused => exact hres

/-- **The choice of a backend, on an available database.** -/
theorem run_choice {w : World} (h : w.db.InOrder) (ids : List String) :
    ∃ res w', (GroupApi.evaluateBackendForGroups cfg ids).run (mysql (.available clock)) w =
        (some res, w') ∧ w.db.SameBackends w'.db ∧
      (w.db.fateAmong cfg (GroupApi.eligible w.db ids)).Chosen w.db res := by
  obtain ⟨res, n, hgroups, hres⟩ :=
    GroupRepo.run_findMany (.available clock) w [("is_enabled", .bool true)]
  cases res with
  | error err =>
    obtain ⟨k, hk⟩ := hres
    exact absurd rfl hk
  | ok gs =>
    subst hres
    set w₀ : World := { w with tick := n } with hw₀
    have heligible : ∀ row ∈ GroupApi.eligible w.db ids, row ∈ w.db.groups :=
      fun row hrow => List.mem_of_mem_filter hrow
    obtain ⟨r, w₁, hfind, hsame, hfound⟩ := GroupApi.findBackends_spec cfg (.available clock) w₀
      (GroupApi.eligible w.db ids) (Db.SameBackends.refl w.db)
    unfold GroupApi.evaluateBackendForGroups GroupApi.getAllActiveGroups
    rw [run_andThen_ok _ hgroups]
    simp only
    rw [GroupApi.eligible_withMappings]
    rcases r with _ | err | bs
    · obtain ⟨row, hrow, hnot⟩ := hfound
      exact absurd (ready_of_nonNull cfg h.nonNull (heligible row hrow)) hnot
    · obtain ⟨k, hk⟩ := hfound
      exact absurd rfl hk
    · rw [run_andThen_ok _ hfind]
      unfold Db.fateAmong
      by_cases hany : bs.any Option.isSome = true
      · have hactive := GroupApi.exists_active_of_found hfound hany
        rw [if_pos hany, if_pos hactive]
        cases he : GroupApi.eligible w.db ids with
        | nil =>
          rw [he] at hactive
          obtain ⟨row, hrow, -⟩ := hactive
          cases hrow
        | cons first rest =>
          rw [he] at hfound
          cases hfound with
          | cons hfirst htail =>
            rename_i b bs
            exact ⟨_, w₁, rfl, hsame, headFate_chosen hfirst⟩
      · have hidle := GroupApi.activeIn_eq_nil_of_found hfound (Bool.eq_false_iff.mpr hany)
        rw [if_neg hany, if_neg fun ⟨row, hrow, hne⟩ => hne (hidle row hrow)]
        have hnull : ∀ row ∈ (GroupApi.eligible w.db ids).map w.db.withMappings, row.NonNull := by
          intro row hrow
          obtain ⟨row, hmem, rfl⟩ := List.mem_map.mp hrow
          have hstored : row.NonNull := h.nonNull .groups row (heligible row hmem)
          exact ⟨hstored.strategy, hstored.isEnabled, hstored.lastRoutedBackend⟩
        have hn : w₁.db.NonNull := by
          have hkept := (GroupApi.nullSafe_findBackends cfg hnull).run (.available clock)
            (w := w₀) h.nonNull
          rw [hfind] at hkept
          exact hkept.2
        have hc : w₁.db.Consistent := by
          have hkept := Db.Consistent.run (GroupApi.findBackends cfg
            ((GroupApi.eligible w.db ids).map w.db.withMappings)) (.available clock) (w := w₀)
            h.consistent
          rw [hfind] at hkept
          exact hkept
        obtain ⟨res, w₂, hdefault, hsame₂, hchosen⟩ := run_default clock cfg hc hn
        refine ⟨res, w₂, hdefault, hsame.trans hsame₂, ?_⟩
        have hfate : w₁.db.defaultFate cfg = w.db.defaultFate cfg := by
          unfold Db.defaultFate
          rw [hsame.activeIn]
        rw [hfate] at hchosen
        exact chosen_of_same hsame hchosen

end Choice

/-- The message of a valid row without `NULL`. -/
theorem encodes_of_valid {b : Backend} (hn : b.NonNull) (hv : b.Valid) :
    ∃ msg, BackendApi.toBackendResponseProto b = ret (.ok msg) ∧
      BackendApi.schemeName msg.scheme = b.scheme := by
  have hscheme : ∃ v, BackendApi.schemeValue b.scheme = some v ∧
      BackendApi.schemeName v = b.scheme := by
    rcases List.mem_pair.mp hv.scheme with h | h
    · rw [h]
      exact ⟨0, rfl, rfl⟩
    · rw [h]
      exact ⟨1, rfl, rfl⟩
  obtain ⟨v, hvalue, hname⟩ := hscheme
  obtain ⟨url, hurl⟩ := Option.isSome_iff_exists.mp hn.externalUrl
  obtain ⟨enabled, henabled⟩ := Option.isSome_iff_exists.mp hn.isEnabled
  obtain ⟨schedule, hschedule⟩ := Option.isSome_iff_exists.mp hn.uptimeSchedule
  obtain ⟨load, hload⟩ := Option.isSome_iff_exists.mp hn.clusterLoad
  obtain ⟨threshold, hthreshold⟩ := Option.isSome_iff_exists.mp hn.thresholdClusterLoad
  obtain ⟨updated, hupdated⟩ := Option.isSome_iff_exists.mp hn.statsUpdatedAt
  obtain ⟨healthy, hhealthy⟩ := Option.isSome_iff_exists.mp hn.isHealthy
  refine ⟨{ id := b.id, isEnabled := enabled, scheme := v, hostname := b.hostname
            externalUrl := url, uptimeSchedule := schedule, isHealthy := healthy
            clusterLoad := load, thresholdClusterLoad := threshold
            statsUpdatedAt := updated }, ?_, hname⟩
  unfold BackendApi.toBackendResponseProto
  rw [hvalue, hurl, henabled, hschedule, hload, hthreshold, hupdated, hhealthy]
  rfl

/-- A stored backend is answered with its hosts. -/
theorem answer_getBackend_some (h : w.db.InOrder) {b : Backend} (hb : b ∈ w.db.backends) :
    ∃ msg w', g.answer (.available clock) (.getBackend b.id) w = (.ok msg, w') ∧ w'.db = w.db ∧
      BackendApi.schemeName msg.scheme = b.scheme ∧ msg.hostname = b.hostname ∧
      b.externalUrl = some msg.externalUrl := by
  obtain ⟨msg, hmsg, hname⟩ := encodes_of_valid (h.nonNull .backends b hb) (h.valid b hb)
  have hfind : w.db.find .backends b.id = some b := h.consistent.find_of_mem hb
  have hrun : (BackendApi.getBackend b.id).run (mysql (.available clock)) w =
      (some (.ok msg), w.next) := by
    unfold BackendApi.getBackend BackendRepo.find Repo.find andThen
    rw [Spine.run_findByID_some (.available clock) w rfl hfind]
    show (BackendApi.toBackendResponseProto b).run _ _ = _
    rw [hmsg]
    rfl
  obtain ⟨-, hrow⟩ := toBackendResponseProto_ok hmsg
  refine ⟨msg, _, answer_of_run g clock (run_rpc clock hrun), rfl, hname, ?_, ?_⟩
  · rw [hrow]
  · rw [hrow]

theorem answer_getBackend_none {id : String} (hnone : w.db.find .backends id = none) :
    ∃ err w', g.answer (.available clock) (.getBackend id) w = (.error err, w') ∧ w'.db = w.db := by
  obtain ⟨err, hrun⟩ := Spine.run_findByID_none (.available clock) w (Or.inr hnone)
  exact ⟨err, _, answer_of_run g clock (run_rpc clock (hrun _)), rfl⟩

/-- The port's source is there. -/
theorem answer_source (hn : w.db.NonNull) (port : ℤ) :
    ∃ source w', g.answer (.available clock) (.evaluateRequestSourceForClient port) w =
      (.ok source, w') ∧ w'.db = w.db := by
  have hrun : ∃ source w', (PolicyApi.evaluateRequestSourceForClient port).run
      (mysql (.available clock)) w = (some (.ok source), w') ∧ w'.db = w.db := by
    unfold PolicyApi.evaluateRequestSourceForClient
    by_cases hport : port = 0
    · rw [if_pos hport]
      exact ⟨"", w, rfl, rfl⟩
    · rw [if_neg hport]
      unfold PolicyApi.evaluateRequestSource PolicyApi.findMany PolicyRepo.findMany Repo.findMany
      have hfind := Spine.run_findMany (.available clock) w .policies
        (PolicyApi.FindManyParams.mk true "listening_port" (toString port) false).conditions
      rw [read_available] at hfind
      rw [run_andThen_ok _ hfind]
      cases hrows : (w.db.rows .policies).filter (Where.holds { eqs :=
          (PolicyApi.FindManyParams.mk true "listening_port" (toString port) false).conditions }
            .policies) with
      | nil => exact ⟨"", _, rfl, rfl⟩
      | cons p rest =>
        have hp : p ∈ w.db.rows .policies :=
          List.mem_of_mem_filter (hrows ▸ List.mem_cons_self)
        have hnull : p.NonNull := hn .policies p hp
        obtain ⟨source, hsource⟩ := Option.isSome_iff_exists.mp hnull.setRequestSource
        refine ⟨source, w.next, ?_, rfl⟩
        simp only [hsource]
        rfl
  obtain ⟨source, w', hrun, hdb⟩ := hrun
  exact ⟨source, w', answer_of_run g clock (run_rpc clock hrun), hdb⟩

end Answers

/-- What the context of a new query shows, and where its request goes. -/
def Fate.Shown (db : Db) (nt : QueryRequest) (req : Request) :
    Fate → RouterServer.ContextSharedObject → Request → Prop
  | .routed groupId, shared, out => ∃ b ∈ db.activeIn groupId, ∃ url source,
      b.externalUrl = some url ∧
      shared = ⟨some ((ClientRequest.query (RouterServer.withBackend nt b.id groupId)).withServerHost
        (b.scheme ++ "://" ++ url)), none⟩ ∧
      out = (req.setHost b.scheme b.hostname).setForwarded source b.hostname
  | .strayed groupId, shared, out =>
      shared = ⟨some (.query (RouterServer.withBackend nt "" groupId)), none⟩ ∧ out = req
  | .refused, shared, out => ∃ err, shared = ⟨none, some err⟩ ∧
      out = { req with url := { req.url with host := RouterServer.invalidHost } }

namespace RouterServer

variable (gunzip : Gunzip) (r : RouterServer) (g : GatewayServer) (clock : ℕ → ℤ) {w : World}

/-- The database is in order after a choice. -/
theorem inOrder_choice (h : w.db.InOrder) (ids : List String) {res : Option (Result (String × String))}
    {w' : World} (hrun : (GroupApi.evaluateBackendForGroups g.cfg ids).run
      (mysql (.available clock)) w = (res, w')) (hsame : w.db.SameBackends w'.db) :
    w'.db.InOrder := by
  have hn := (GroupApi.nullSafe_evaluateBackendForGroups g.cfg ids).run (.available clock) h.nonNull
  have hc := Db.Consistent.run (GroupApi.evaluateBackendForGroups g.cfg ids) (.available clock)
    h.consistent
  rw [hrun] at hn hc
  refine ⟨hc, hn.2, fun b hb => ?_⟩
  rw [hsame.backends] at hb
  exact h.valid b hb

/-- The resolution of a new query. -/
theorem evaluateRoutingBackend_available (h : w.db.InOrder) (nt : QueryRequest) :
    ∃ res w', (evaluateRoutingBackend nt).run (g.answer (.available clock)) w = (some res, w') ∧
      w.db.SameBackends w'.db ∧ w'.db.InOrder ∧
      (w.db.fate g.cfg (clientParams nt)).Chosen w.db res := by
  obtain ⟨ids, w₁, hgroups, hdb, hids⟩ := answer_groups g clock (w := w) (clientParams nt)
  have horder : w₁.db.InOrder := hdb ▸ h
  obtain ⟨res, w₂, hrun, hsame, hchosen⟩ := run_choice clock g.cfg horder ids
  have hkept := inOrder_choice g clock horder ids hrun hsame
  have hanswer : g.answer (.available clock) (.evaluateBackendForGroups ids) w₁ = (res, w₂) :=
    answer_of_run g clock (run_rpc clock hrun)
  have hadmitted : GroupApi.eligible w.db ids = w.db.admitted (clientParams nt) := by
    refine List.filter_congr fun group _ => ?_
    simp only [hids]
  rw [hdb] at hsame hchosen
  rw [hadmitted] at hchosen
  refine ⟨res, w₂, ?_, hsame, hkept, hchosen⟩
  show ((perform (RouterOp.evaluateGroupsForClient (clientParams nt))).bind _).run _ w = _
  rw [run_answered _ hgroups]
  show ((perform (RouterOp.evaluateBackendForGroups ids))).run _ w₁ = _
  rw [run_perform, hanswer]

/-- The preparation for an active backend. -/
theorem prepareReqForRouting_available (h : w.db.InOrder) {b : Backend} (hb : b ∈ w.db.backends)
    (req : Request) (nt : QueryRequest) :
    ∃ url source w', (r.prepareReqForRouting req b.id (.query nt)).run
        (g.answer (.available clock)) w =
      (some { err := .ok ()
              cReq := (ClientRequest.query nt).withServerHost (b.scheme ++ "://" ++ url)
              req := (req.setHost b.scheme b.hostname).setForwarded source b.hostname }, w') ∧
      b.externalUrl = some url := by
  obtain ⟨msg, w₁, hmsg, hdb, hscheme, hhost, hurl⟩ := answer_getBackend_some g clock h hb
  have hn : w₁.db.NonNull := hdb ▸ h.nonNull
  obtain ⟨source, w₂, hsource, -⟩ := answer_source g clock hn r.incomingPort
  refine ⟨msg.externalUrl, source, w₂, ?_, hurl⟩
  have hhostOf : (ClientRequest.query nt).hostOf msg = b.hostname := hhost
  show ((perform (RouterOp.getBackend b.id)).bind _).run _ w = _
  rw [run_answered _ hmsg]
  show Prog.run _ (if ClientRequest.query nt = .api then _ else _) w₁ = _
  rw [if_neg nofun]
  show ((perform (RouterOp.evaluateRequestSourceForClient r.incomingPort)).bind _).run _ w₁ = _
  rw [run_answered _ hsource, hhostOf, hscheme]
  rfl

/-- The preparation without a backend leaves the request as it is. -/
theorem prepareReqForRouting_missing (h : w.db.InOrder) (req : Request) (nt : QueryRequest) :
    ∃ err w', (r.prepareReqForRouting req "" (.query nt)).run (g.answer (.available clock)) w =
      (some { err := .error err, cReq := .query nt, req := req }, w') := by
  have hnone : w.db.find .backends "" = none := by
    by_contra hsome
    obtain ⟨b, hb⟩ := Option.ne_none_iff_exists'.mp hsome
    exact (h.valid b (Db.mem_of_find hb)).id.1 (Db.find_id hb)
  obtain ⟨err, w₁, hmissing, -⟩ := answer_getBackend_none g clock hnone
  refine ⟨err, w₁, ?_⟩
  show ((perform (RouterOp.getBackend "")).bind _).run _ w = _
  rw [run_answered _ hmissing]
  rfl

/-- What the director makes of a routing: the context, and the request. -/
def directed : Result (Option ClientRequest) × Request → ContextSharedObject × Request
  | (.error err, req) => (⟨none, some err⟩, { req with url := { req.url with host := invalidHost } })
  | (.ok cReq, req) => (⟨cReq, none⟩, req)

theorem routeSubmission_available (h : w.db.InOrder) (req : Request) (nt : QueryRequest) :
    ∃ res w', (r.routeSubmission req nt).run (g.answer (.available clock)) w = (some res, w') ∧
      Fate.Shown w.db nt req (w.db.fate g.cfg (clientParams nt)) (directed res).1 (directed res).2 := by
  obtain ⟨resolved, w₁, hresolved, hsame, horder, hchosen⟩ :=
    evaluateRoutingBackend_available g clock h nt
  unfold routeSubmission
  simp only [bind_eq]
  rw [run_bind_some _ hresolved]
  cases hfate : w.db.fate g.cfg (clientParams nt) with
  | routed groupId =>
    rw [hfate] at hchosen
    obtain ⟨b, hb, rfl⟩ := hchosen
    have hmem : b ∈ w₁.db.backends := by
      rw [hsame.backends]
      exact List.mem_of_mem_filter hb
    obtain ⟨url, source, w₂, hprepared, hurl⟩ :=
      prepareReqForRouting_available r g clock horder hmem req nt
    exact ⟨_, w₂, (run_bind_some _ hprepared).trans rfl, b, hb, url, source, hurl, rfl, rfl⟩
  | strayed groupId =>
    rw [hfate] at hchosen
    obtain rfl := hchosen
    obtain ⟨err, w₂, hprepared⟩ := prepareReqForRouting_missing r g clock horder req nt
    exact ⟨_, w₂, (run_bind_some _ hprepared).trans rfl, rfl, rfl⟩
  | refused =>
    rw [hfate] at hchosen
    obtain ⟨err, rfl⟩ := hchosen
    obtain ⟨err', w₂, hprepared⟩ := prepareReqForRouting_missing r g clock horder req nt
    exact ⟨_, w₂, (run_bind_some _ hprepared).trans rfl, err, rfl, rfl⟩

/-- The routing of a new query. -/
theorem routeRequest_available (h : w.db.InOrder) (req : Request) {nt : QueryRequest}
    (hnew : nt.query.id = "") :
    ∃ res w', (r.routeRequest req (.query nt)).run (g.answer (.available clock)) w =
        (some res, w') ∧
      Fate.Shown w.db nt req (w.db.fate g.cfg (clientParams nt)) (directed res).1 (directed res).2 := by
  have hroute : r.routeRequest req (.query nt) = r.routeSubmission req nt := by
    show (if nt.query.id ≠ "" then _ else r.routeSubmission req nt) = _
    rw [if_neg (not_not.mpr hnew)]
  rw [hroute]
  exact routeSubmission_available r g clock h req nt

/-- The director on a request that is accepted. -/
theorem handleClientRequest_accepted {req req₁ : Request} {cReq : ClientRequest}
    (hacc : Accepts gunzip r req cReq req₁) {res : Result (Option ClientRequest) × Request}
    {w' : World} (hroute : (r.routeRequest req₁ cReq).run (g.answer (.available clock)) w =
      (some res, w')) :
    (g.onServer (r.handleClientRequest gunzip req)).run (mysql (.available clock)) w =
      (some (directed res), w') := by
  obtain ⟨hparse, hvalid⟩ := hacc
  have hprocess : (r.processRequest gunzip req).run (g.answer (.available clock)) w =
      (some res, w') := by
    unfold processRequest
    rw [hparse]
    simp only [deref_some, bind_eq, ret_bind, hvalid]
    exact hroute
  rw [run_onServer]
  unfold handleClientRequest
  simp only [bind_eq]
  rw [run_bind_some _ hprocess]
  obtain ⟨result, out⟩ := res
  cases result with
  | error err => rfl
  | ok routed => rfl

/-- Two groups for the port, of which the first has no backend. -/
def twoGroups : Db where
  backends :=
    [{ id := "trino-1", hostname := "trino-1:8080", scheme := "http", externalUrl := some "trino.dev",
       isEnabled := some true, isHealthy := some true, uptimeSchedule := some "* * * * *",
       clusterLoad := some 0, thresholdClusterLoad := some 0, statsUpdatedAt := some 0 }]
  groups :=
    [{ id := "adhoc", strategy := some "random", isEnabled := some true,
       lastRoutedBackend := some "" },
      { id := "etl", strategy := some "random", isEnabled := some true,
        lastRoutedBackend := some "" }]
  mappings := [{ id := some 1, groupId := "etl", backendId := "trino-1" }]
  policies :=
    [{ id := "adhoc-port", ruleType := "listening_port", ruleValue := "8080", groupId := "adhoc",
       fallbackGroupId := some "adhoc", isEnabled := some true, isAuthDelegated := some false,
       setRequestSource := some "" },
      { id := "etl-port", ruleType := "listening_port", ruleValue := "8080", groupId := "etl",
        fallbackGroupId := some "adhoc", isEnabled := some true, isAuthDelegated := some false,
        setRequestSource := some "" }]

theorem twoGroups_inOrder : twoGroups.InOrder where
  consistent := by decide +kernel
  nonNull t r hr := by
    cases t with
    | backends =>
      obtain rfl := List.mem_singleton.mp hr
      exact ⟨rfl, rfl, rfl, rfl, rfl, rfl, rfl⟩
    | groups =>
      rcases List.mem_pair.mp hr with rfl | rfl
      · exact ⟨rfl, rfl, rfl⟩
      · exact ⟨rfl, rfl, rfl⟩
    | policies =>
      rcases List.mem_pair.mp hr with rfl | rfl
      · exact ⟨rfl, rfl, rfl, rfl⟩
      · exact ⟨rfl, rfl, rfl, rfl⟩
    | queries => trivial
  valid b hb := by
    obtain rfl := List.mem_singleton.mp hb
    exact ⟨by decide, by decide, by decide, "trino.dev", rfl, by decide, by decide⟩

/-- The query of `selectOne`, at port 8080. -/
def selectOneQuery : QueryRequest :=
  queryRequestOf { port := 8080, routerHostname := "" } selectOne
    { text := "SELECT 1", username := "alice" }

end RouterServer

end TrinoGateway
