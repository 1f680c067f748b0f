import TrinoGateway.Spec.Probes

/-!
# The monitor's handles

A probe opens the body of a response, a database handle and a result set, and defers their closing.
`evaluateBackendNewState_releases`: **whatever the clusters and the gateway server answer, and also
when the evaluation panics, every handle that it opened is closed in the end, each once, and none is
used when it is not open**. A client's database handle is opened at most once, for both of its checks.
-/

namespace TrinoGateway

open Interact Prog

namespace Handles

/-- What a call may be answered, and what it does to the handles. -/
def Sem : (o : ProbeOp) → Handles → o.Ans → Handles → Prop
  | .hasDb, s, x, s' => x = decide (s.db ≠ .absent) ∧ s' = s
  | o, s, x, s' => s' = s.after o x

theorem track_sem {τ : Type} (h : (o : ProbeOp) → τ → o.Ans × τ) (o : ProbeOp) (t : τ × Handles) :
    Sem o t.2 (track h o t).1 (track h o t).2.2 := by
  cases o with
  | hasDb => exact ⟨rfl, rfl⟩
  | _ => exact rfl

/-- Nothing is open but perhaps the client's database handle. -/
def Usable (s : Handles) : Prop := s = {} ∨ s = { db := .opened }

/-- The client has no open handle any more. -/
def Torn (s : Handles) : Prop := s = {} ∨ s = { db := .closed }

theorem Torn.released {s : Handles} (h : s.Torn) : s.Released := by
  rcases h with rfl | rfl
  · exact ⟨rfl, nofun, rfl, rfl⟩
  · exact ⟨rfl, nofun, rfl, rfl⟩

end Handles

namespace Probe

open Handles

/-- What a part of the monitor leaves when it returns, and when it panics. -/
abbrev Leaving {α : Type} (p : Probe α) (Q : α → Handles → Prop) (P : Handles → Prop)
    (s : Handles) : Prop :=
  p.Leaves Handles.Sem Q P s

variable {s : Handles}

/-- The body of a response is closed, also when decoding it panics. -/
theorem isClusterUp_leaves (t : TrinoClient) :
    Leaving (isClusterUp t) (fun _ s => s = {}) (fun s => s = {}) {} := by
  intro res s' hs
  cases res with
  | error err => exact hs
  | ok resp =>
    have hstatus : ¬ ¬ (200 ≤ resp.statusCode ∨ resp.statusCode ≤ 300) := by omega
    have hopen : s' = { body := true } := hs
    show Leaving (if ¬ (200 ≤ resp.statusCode ∨ resp.statusCode ≤ 300) then _ else _) _ _ _
    rw [if_neg hstatus]
    have hkept : ∀ p : Probe (Result Bool), (∀ s, Leaving p (fun _ s' => s' = s) (fun s' => s' = s) s) →
        Leaving (deferring (perform ProbeOp.closeBody) p) (fun _ s => s = {}) (fun s => s = {}) s' := by
      intro p hp
      refine (hp s').deferring (fun a s hbody => ?_) fun s hbody => ?_
      · rintro _ s'' rfl
        rw [hbody, hopen]
        rfl
      · rintro _ s'' rfl
        rw [hbody, hopen]
        rfl
    refine hkept _ fun s => ?_
    split
    · exact rfl
    · cases hinfo : unmarshalInfo (Bytes.text resp.body.bytes) with
      | none => exact rfl
      | some info =>
        show Leaving (if info.nodeVersion = "" then _ else _) _ _ _
        split
        · exact rfl
        · split
          · exact rfl
          · exact rfl

/-- A query leaves its rows open, or an error. -/
def AfterQuery : Result Rows → Handles → Prop
  | .ok _, s => s = { db := .opened, rows := true }
  | .error _, s => s.Usable

theorem runQuery_leaves (t : TrinoClient) (q : String) (hs : s.Usable) :
    Leaving (runQuery t q) AfterQuery (fun _ => False) s := by
  have hinit : Leaving (do if ← perform ProbeOp.hasDb then return .ok () else initTrinoDbClient t)
      (fun (res : Result Unit) s => match res with
        | .ok () => s = { db := .opened }
        | .error _ => s.Usable) (fun _ => False) s := by
    rintro x s' ⟨rfl, rfl⟩
    rcases hs with rfl | rfl
    · show Leaving (initTrinoDbClient t) _ _ _
      rintro x s' rfl
      cases x with
      | error err => exact Or.inl rfl
      | ok _ =>
        rintro x s' rfl
        cases x with
        | error err => exact Or.inl rfl
        | ok _ => exact rfl
    · exact rfl
  refine hinit.andThen (fun _ _ h => h) fun _ s hopened => ?_
  obtain rfl := hopened
  rintro x s' rfl
  cases x with
  | error err => exact Or.inr rfl
  | ok _ =>
    rintro x s' rfl
    cases x with
    | error err => exact Or.inr rfl
    | ok rows => exact rfl

/-- Going through rows needs them open, and leaves them so. -/
theorem drain_leaves (rows : List (Result StateStat)) {s : Handles}
    (hs : s = { db := .opened, rows := true }) : Leaving (drain rows) (fun _ s' => s' = s) (fun _ => False) s := by
  subst hs
  induction rows with
  | nil =>
    rintro _ s' rfl
    rfl
  | cons row rows ih =>
    rintro _ s' rfl
    exact ih

theorem scanRows_leaves (rows : List (Result StateStat)) (acc : List StateStat) {s : Handles}
    (hs : s = { db := .opened, rows := true }) :
    Leaving (scanRows acc rows) (fun _ s' => s' = s) (fun _ => False) s := by
  subst hs
  induction rows generalizing acc with
  | nil =>
    rintro _ s' rfl
    rfl
  | cons row rows ih =>
    rintro _ s' rfl _ s'' rfl
    cases row with
    | error err => exact rfl
    | ok res => exact ih _

/-- Rows are closed by what is deferred. -/
theorem closeRows_leaves {α : Type} {p : Probe α}
    (hp : Leaving p (fun _ s' => s' = { db := .opened, rows := true }) (fun _ => False)
      { db := .opened, rows := true }) :
    Leaving (deferring (perform ProbeOp.closeRows) p) (fun _ s => s.Usable) (fun _ => False)
      { db := .opened, rows := true } := by
  refine hp.deferring (fun a s hrows => ?_) fun s h => h.elim
  rintro _ s' rfl
  rw [hrows]
  exact Or.inr rfl

theorem isClusterHealthy_leaves (sql : String) (t : TrinoClient) (hs : s.Usable) :
    Leaving (isClusterHealthy sql t) (fun _ s => s.Usable) (fun _ => False) s := by
  refine (runQuery_leaves t sql hs).andThen (fun _ _ h => h) fun rows s hrows => ?_
  obtain rfl := hrows
  refine closeRows_leaves ((drain_leaves rows.scans rfl).bind fun _ s hopen => ?_)
  cases rows.err with
  | none => exact hopen
  | some err => exact hopen

theorem teardown_leaves (hs : s.Usable) :
    Leaving teardown (fun _ s => s.Torn) (fun s => s.Torn) s := by
  rintro x s' ⟨rfl, rfl⟩
  rcases hs with rfl | rfl
  · exact Or.inl rfl
  · rintro x s' rfl
    exact Or.inr rfl

variable (cfg : ProbeConfig)

/-- A new client may be made when the last one is torn down, and is torn down in the end. -/
theorem client_leaves {α : Type} {p : Probe α} (hs : s.Torn)
    (hp : Leaving p (fun _ s => s.Usable) (fun s => s.Usable) {}) :
    Leaving (do
      perform ProbeOp.newClient
      deferring teardown p) (fun _ s => s.Torn) (fun s => s.Torn) s := by
  rintro _ s' rfl
  have hnew : s.after .newClient () = {} := by
    rcases hs with rfl | rfl
    · rfl
    · rfl
  rw [hnew]
  exact hp.deferring (fun _ s hs => teardown_leaves hs) fun s hs => teardown_leaves hs

theorem isBackendUp_leaves (b : BackendMsg) (hs : s.Torn) :
    Leaving (isBackendUp cfg b) (fun _ s => s.Torn) (fun s => s.Torn) s := by
  refine client_leaves hs (Leaves.andThen (Q := fun _ s => s = {}) ?_ (fun _ s h => Or.inl h)
    fun isUp s hsame => ?_)
  · exact (isClusterUp_leaves _).mono (fun _ _ h => h) fun s h => Or.inl h
  · cases isUp with
    | false => exact Or.inl hsame
    | true =>
      exact (isClusterHealthy_leaves _ _ (Or.inl hsame)).mono (fun _ _ h => h) fun _ h => h.elim

theorem getBackendLoad_leaves (b : BackendMsg) (hs : s.Torn) :
    Leaving (getBackendLoad cfg b) (fun _ s => s.Torn) (fun s => s.Torn) s := by
  refine client_leaves hs (Leaves.mono (P := fun _ => False) ?_ (fun _ _ h => h) fun _ h => h.elim)
  refine (runQuery_leaves _ _ (Or.inl rfl)).andThen (fun _ _ h => h) fun rows s hrows => ?_
  obtain rfl := hrows
  refine closeRows_leaves ((scanRows_leaves rows.scans [] rfl).andThen (fun _ _ h => h)
    fun stats s hopen => ?_)
  cases rows.err with
  | none => exact hopen
  | some err => exact hopen

theorem isHealthy_leaves (b : BackendMsg) (hs : s.Torn) :
    Leaving (isHealthy cfg b) (fun _ s => s.Torn) (fun s => s.Torn) s := by
  have hcheck : ∀ s, s.Torn →
      Leaving (isBackendHealthy cfg b) (fun _ s => s.Torn) (fun s => s.Torn) s := by
    intro s hs
    refine (isBackendUp_leaves cfg b hs).andThen (fun _ _ h => h) fun isUp s hs => ?_
    cases isUp with
    | false => exact hs
    | true =>
      refine (getBackendLoad_leaves cfg b hs).bind fun res s hs => ?_
      cases res with
      | error err => exact hs
      | ok load =>
        rintro x s' rfl _ s'' rfl
        exact hs
  rintro x s' rfl
  cases x with
  | error err => exact hs
  | ok isEligible =>
    cases isEligible with
    | false => exact hs
    | true =>
      refine (hcheck _ hs).bind fun res s hs => ?_
      cases res with
      | error err => exact hs
      | ok isHealthy => exact hs

theorem evaluateBackends_leaves (bs : List (Option BackendMsg)) (st : BackendsNewState)
    (hs : s.Torn) :
    Leaving (evaluateBackends cfg st bs) (fun _ s => s.Torn) (fun s => s.Torn) s := by
  induction bs generalizing st s with
  | nil => exact hs
  | cons b bs ih =>
    cases b with
    | none => exact hs
    | some b =>
      refine (isHealthy_leaves cfg b hs).bind fun isHealthy s hs => ?_
      cases isHealthy with
      | false => exact ih _ hs
      | true => exact ih _ hs

/-- **The monitor closes what it opens.** Whatever the calls are answered, the evaluation of the
backends' new states leaves nothing open, and has used no handle that was not open, also when it
panics. -/
theorem evaluateBackendNewState_releases {τ : Type} (h : (o : ProbeOp) → τ → o.Ans × τ) (t : τ) :
    ((evaluateBackendNewState cfg).run (Handles.track h) (t, {})).2.2.Released := by
  have hleaves : Leaving (evaluateBackendNewState cfg) (fun _ s => s.Torn) (fun s => s.Torn) {} := by
    rintro x s' rfl
    cases x with
    | error err => exact Or.inl rfl
    | ok items =>
      show Leaving ((if items.any Option.isNone then _ else _ : Probe _).andThen _) _ _ _
      split
      · exact Or.inl rfl
      · exact evaluateBackends_leaves cfg items {} (Or.inl rfl)
  have hrun := Leaves.run (fun o u => Handles.track_sem h o u) (t := (t, ({} : Handles))) hleaves
  cases hres : ((evaluateBackendNewState cfg).run (Handles.track h) (t, {})).1 with
  | none => exact (hrun.2 hres).released
  | some res => exact (hrun.1 res hres).released

end Probe

end TrinoGateway
