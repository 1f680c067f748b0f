import TrinoGateway.Proof.Selection

/-!
# Round robin under churn

Calls of `findBackend` for a `round_robin` group, one after another, while backends come and go
between them. The row of the group carries the last routed backend from one call to the next; it may
name a backend that is not active, or none at all.

* `findBackend_isNext`: one call answers the successor of the last routed backend among the active
  ones, none only if there is none.
* `churn_fair`: **a backend that is active in as many consecutive calls as there are backends
  active in any of them is routed to**.
-/

namespace TrinoGateway

open Interact Prog

namespace GroupApi

/-- The backends active at a call, and its answer. -/
structure Pick where
  ids : List String
  answer : Option String
deriving DecidableEq

/-- Successive calls for a `round_robin` group, from the last routed backend that its row names.
Between two calls anything may happen to the database but a change of that. -/
inductive Churn (cfg : Config) (groupId : String) : String → List Pick → Prop
  | nil (last : String) : Churn cfg groupId last []
  | call {last last' : String} {env : Env} {w w' : World} {row row' : Group}
      {answer : Option String} {picks : List Pick}
      (before : w.db.find .groups groupId = some row)
      (strategy : row.strategy = some "round_robin")
      (pointer : row.lastRoutedBackend = some last)
      (run : (findBackend cfg (w.db.withMappings row)).run (mysql env) w = (some (.ok answer), w'))
      (after : w'.db.find .groups groupId = some row')
      (pointer' : row'.lastRoutedBackend = some last')
      (written : ∀ b, answer = some b → last' = b)
      (next : Churn cfg groupId last' picks) :
      Churn cfg groupId last (⟨(w.db.activeIn groupId).map Backend.id, answer⟩ :: picks)

variable {cfg : Config} {groupId last : String}

/-- One call: the successor of the last routed backend. -/
theorem findBackend_isNext {env : Env} {w w' : World} {row : Group} {answer : Option String}
    (hid : row.id = groupId) (hstrategy : row.strategy = some "round_robin")
    (hp : row.lastRoutedBackend = some last)
    (hrun : (findBackend cfg (w.db.withMappings row)).run (mysql env) w =
      (some (.ok answer), w')) :
    (w.db.activeIn groupId = [] ∧ answer = none) ∨
      ∃ b, answer = some b ∧ Rotation.IsNext ((w.db.activeIn groupId).map Backend.id) last b := by
  unfold findBackend at hrun
  rcases read_run (run_getAllActive env w row) with ⟨e, -, hact⟩ | hact
  · rw [run_andThen_error _ hact] at hrun
    cases hrun
  rw [run_andThen_ok _ hact] at hrun
  rw [hid] at hrun
  cases hactive : w.db.activeIn groupId with
  | nil =>
    rw [hactive] at hrun
    cases hrun
    exact Or.inl ⟨rfl, rfl⟩
  | cons first rest =>
    rw [hactive] at hrun
    have hids : (first :: rest).map Backend.id ≠ [] := by simp
    have hselect : (selectBackend cfg (w.db.withMappings row) first (first :: rest)).run
        (mysql env) w.next = (some (roundRobin ((first :: rest).map Backend.id) last), w.next) := by
      have hstrategy' : (w.db.withMappings row).strategy = some "round_robin" := hstrategy
      have hp' : (w.db.withMappings row).lastRoutedBackend = some last := hp
      simp [selectBackend, hstrategy', hp']
    obtain ⟨res, w₁, hupd, -⟩ := run_updateLastRouted env w.next (w.db.withMappings row).id
      (roundRobin ((first :: rest).map Backend.id) last)
    simp only [bind_eq] at hrun
    rw [run_bind_some _ hselect, run_bind_some _ hupd] at hrun
    cases hrun
    exact Or.inr ⟨_, rfl, roundRobin_isNext hids last⟩

/-- An answer that is a backend, with the backends that were active. -/
def Pick.turn (pick : Pick) : List String × String := (pick.ids, pick.answer.getD "")

namespace Churn

variable {picks window : List Pick}

/-- Every call answers one of the active backends, or none if there is none. -/
theorem answer_mem (h : Churn cfg groupId last picks) :
    ∀ pick ∈ picks, (pick.ids = [] ∧ pick.answer = none) ∨
      ∃ b ∈ pick.ids, pick.answer = some b := by
  induction h with
  | nil => exact fun _ hpick => by cases hpick
  | call before strategy pointer run _ _ _ _ ih =>
    intro pick hpick
    rcases List.mem_cons.mp hpick with rfl | hpick
    · rcases findBackend_isNext (Db.find_id before) strategy pointer run with ⟨hnil, hnone⟩ | ⟨b, hb, hnext⟩
      · exact Or.inl ⟨by rw [hnil]; rfl, hnone⟩
      · exact Or.inr ⟨b, hnext.mem, hb⟩
    · exact ih pick hpick

/-- **Calls that all find an active backend rotate.** -/
theorem rotates (h : Churn cfg groupId last picks) (hactive : ∀ pick ∈ picks, pick.ids ≠ []) :
    Rotation.Rotates last (picks.map Pick.turn) := by
  induction h with
  | nil => trivial
  | call before strategy pointer run _ _ written _ ih =>
    rcases findBackend_isNext (Db.find_id before) strategy pointer run with ⟨hnil, -⟩ | ⟨b, rfl, hnext⟩
    · exact absurd (by rw [hnil]; rfl) (hactive _ (List.mem_cons_self ..))
    · obtain rfl := written b rfl
      exact ⟨hnext, ih fun pick hpick => hactive pick (List.mem_cons_of_mem _ hpick)⟩

/-- Some consecutive calls of a run. -/
theorem of_infix (h : Churn cfg groupId last picks) (hin : window <:+: picks) :
    ∃ last', Churn cfg groupId last' window := by
  obtain ⟨before, after, rfl⟩ := hin
  induction before generalizing last with
  | nil =>
    refine ⟨last, ?_⟩
    rw [List.nil_append] at h
    induction window generalizing last with
    | nil => exact .nil last
    | cons pick window ih =>
      cases h with
      | call before strategy pointer run after pointer' written next =>
        exact .call before strategy pointer run after pointer' written (ih next)
  | cons pick before ih =>
    cases h with
    | call _ _ _ _ _ _ _ next => exact ih next

/-- A backend that is active in as many consecutive calls as there are backends active in any of
them is the answer of one. -/
theorem mem_answers (h : Churn cfg groupId last window) {b : String}
    (hb : ∀ pick ∈ window, b ∈ pick.ids) (hne : window ≠ [])
    (hlen : (window.flatMap Pick.ids).toFinset.card ≤ window.length) :
    some b ∈ window.map Pick.answer := by
  have hrot := h.rotates fun pick hpick => List.ne_nil_of_mem (hb pick hpick)
  have hU : ∀ pick ∈ window, ∀ y ∈ pick.ids, y ∈ (window.flatMap Pick.ids).toFinset :=
    fun pick hpick y hy => List.mem_toFinset.mpr (List.mem_flatMap.mpr ⟨pick, hpick, hy⟩)
  obtain ⟨first, hfirst⟩ := List.exists_mem_of_ne_nil window hne
  have hmem := Rotation.mem_of_rotates hrot
    (fun c hc y hy => by
      obtain ⟨pick, hpick, rfl⟩ := List.mem_map.mp hc
      exact hU pick hpick y hy)
    (hU first hfirst b (hb first hfirst))
    (fun c hc => by
      obtain ⟨pick, hpick, rfl⟩ := List.mem_map.mp hc
      exact hb pick hpick)
    (by rwa [List.length_map])
  rw [List.map_map] at hmem
  obtain ⟨pick, hpick, hturn⟩ := List.mem_map.mp hmem
  rcases h.answer_mem pick hpick with ⟨hnil, -⟩ | ⟨b', -, hanswer⟩
  · exact absurd hnil (List.ne_nil_of_mem (hb pick hpick))
  · refine List.mem_map.mpr ⟨pick, hpick, ?_⟩
    simp only [Function.comp_apply, Pick.turn, hanswer, Option.getD_some] at hturn
    rw [hanswer, hturn]

/-- As many consecutive calls as there are backends, with the same ones active at each, answer each
of them once. -/
theorem perm_answers (h : Churn cfg groupId last window) {ids : List String} (hids : ids.Nodup)
    (hsame : ∀ pick ∈ window, pick.ids = ids) (hlen : window.length = ids.length) :
    (window.map Pick.answer).Perm (ids.map some) := by
  -- each is answered, and there are no more answers than backends
  refine (List.Subperm.perm_of_length_le ?_ (by simp [hlen])).symm
  refine (hids.map (Option.some_injective _)).subperm fun x hx => ?_
  obtain ⟨b, hb, rfl⟩ := List.mem_map.mp hx
  have hpos : 0 < window.length := hlen ▸ List.length_pos_of_mem hb
  refine h.mem_answers (fun pick hpick => by rwa [hsame pick hpick]) (List.length_pos_iff.mp hpos) ?_
  have hsub : (window.flatMap Pick.ids).toFinset ⊆ ids.toFinset := by
    intro y hy
    obtain ⟨pick, hpick, hy⟩ := List.mem_flatMap.mp (List.mem_toFinset.mp hy)
    rw [hsame pick hpick] at hy
    exact List.mem_toFinset.mpr hy
  calc (window.flatMap Pick.ids).toFinset.card ≤ ids.toFinset.card := Finset.card_le_card hsub
    _ ≤ ids.length := List.toFinset_card_le ids
    _ = window.length := hlen.symm

end Churn

/-- **Round robin under churn**: every call answers one of its active backends; in as many
consecutive calls as there are backends active in any of them, one that is active in all is the
answer of some; with the same backends active in each, as many calls as backends answer each once. -/
theorem churn_fair {picks : List Pick} (h : Churn cfg groupId last picks)
    (hids : ∀ pick ∈ picks, pick.ids.Nodup) :
    (∀ pick ∈ picks, pick.ids ≠ [] → ∃ b ∈ pick.ids, pick.answer = some b) ∧
      ∀ window, window <:+: picks →
        (∀ b, (∀ pick ∈ window, b ∈ pick.ids) → window ≠ [] →
            window.length = (window.flatMap Pick.ids).toFinset.card →
          some b ∈ window.map Pick.answer) ∧
        ∀ ids, (∀ pick ∈ window, pick.ids = ids) → window.length = ids.length →
          (window.map Pick.answer).Perm (ids.map some) := by
  refine ⟨fun pick hpick hne => ?_, fun window hin => ?_⟩
  · exact (h.answer_mem pick hpick).resolve_left fun hnil => hne hnil.1
  · obtain ⟨last', hwindow⟩ := h.of_infix hin
    refine ⟨fun b hb hne hlen => hwindow.mem_answers hb hne hlen.ge, fun ids hsame hlen => ?_⟩
    by_cases hw : window = []
    · rw [hw] at hlen ⊢
      rw [List.length_eq_zero_iff.mp hlen.symm]
      exact .refl _
    · obtain ⟨pick, hpick⟩ := List.exists_mem_of_ne_nil window hw
      exact hwindow.perm_answers (hsame pick hpick ▸ hids pick (hin.subset hpick)) hsame hlen

/-- A group on some active backends, with its last routed backend. -/
def etlOn (ids : List String) (last : String) : Db where
  backends := ids.map fun id =>
    { id := id, hostname := "h", scheme := "http", externalUrl := some "x",
      isEnabled := some true, isHealthy := some true }
  groups := [{ id := "etl", strategy := some "round_robin", isEnabled := some true,
               lastRoutedBackend := some last }]
  mappings := ids.map fun id => { groupId := "etl", backendId := id }

/-- A backend that comes, after one that was left behind, while another stays. -/
theorem stayingBackend_picked :
    Churn ⟨"adhoc", 0⟩ "etl" "gone"
        [⟨["trino-2"], some "trino-2"⟩, ⟨["trino-1", "trino-2"], some "trino-1"⟩] ∧
      some "trino-2" ∈ [some "trino-2", some "trino-1"] := by
  have hsecond : Churn ⟨"adhoc", 0⟩ "etl" "trino-2" [⟨["trino-1", "trino-2"], some "trino-1"⟩] :=
    @Churn.call _ _ _ "trino-1" (.available fun _ => 0) ⟨etlOn ["trino-1", "trino-2"] "trino-2", 0⟩
      _ _ _ _ _ rfl rfl rfl rfl rfl rfl (fun _ hb => Option.some.inj hb) (.nil _)
  have hfirst : Churn ⟨"adhoc", 0⟩ "etl" "gone"
      [⟨["trino-2"], some "trino-2"⟩, ⟨["trino-1", "trino-2"], some "trino-1"⟩] :=
    @Churn.call _ _ _ "trino-2" (.available fun _ => 0) ⟨etlOn ["trino-2"] "gone", 0⟩
      _ _ _ _ _ rfl rfl rfl rfl rfl rfl (fun _ hb => Option.some.inj hb) hsecond
  refine ⟨hfirst, ?_⟩
  exact ((churn_fair hfirst (by decide)).2 _ (List.infix_refl _)).1 "trino-2" (by decide)
    (by decide) (by decide)

end GroupApi

end TrinoGateway
