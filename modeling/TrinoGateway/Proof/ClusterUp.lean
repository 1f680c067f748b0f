import TrinoGateway.Spec.TrinoClient

/-!
# Whether a cluster is up

The status test of `IsClusterUp` holds of no status, and the body `null` leaves a nil pointer that
is dereferenced. `reportsUp_iff`: **the answer is right exactly when the body is not `null`, and the
status is 2xx or the body is not that of a cluster that is up**.
-/

namespace TrinoGateway.TrinoClient

open Interact Prog

/-- The body is an object whose members say that the cluster is up. -/
def UpBody (body : List UInt8) : Prop :=
  ∃ members, Json.parse (Bytes.text body) = some (.obj members) ∧
    (Info.ofJson (.obj members)).coordinator = true ∧
    (Info.ofJson (.obj members)).starting = false ∧
    (Info.ofJson (.obj members)).nodeVersion ≠ ""

/-- The answer for a status and a body, `none` for a panic. -/
def upFor (t : TrinoClient) (status : ℕ) (header : Header) (body : List UInt8) :
    Option (Result Bool) :=
  (t.isClusterUp.run (logged fun
    | .send _ => .ok { statusCode := status, header := header, body := { bytes := body } }) []).1

/-- There is an answer, and it is yes exactly for a cluster that says so with a 2xx status. -/
def ReportsUp (t : TrinoClient) (status : ℕ) (header : Header) (body : List UInt8) : Prop :=
  ∃ res, t.upFor status header body = some res ∧
    (res = .ok true ↔ (200 ≤ status ∧ status < 300) ∧ UpBody body)

variable {t : TrinoClient} {status : ℕ} {header : Header} {body : List UInt8}

/-- The status plays no part. -/
theorem upFor_eq : t.upFor status header body =
    (unmarshalInfo (Bytes.text body)).map fun info =>
      if info.nodeVersion = "" then .error (.text "trino api returned invalid response")
      else .ok (info.coordinator && !info.starting) := by
  have hstatus : 200 ≤ status ∨ status ≤ 300 := by omega
  simp only [upFor, isClusterUp, bind_eq, perform_bind, run_op, logged_fst, logged_snd,
    not_true_eq_false, if_false, hstatus]
  cases unmarshalInfo (Bytes.text body) with
  | none => rfl
  | some info =>
    simp only [deref_some, ret_bind, Option.map_some]
    by_cases hv : info.nodeVersion = ""
    · simp [hv, pure_eq]
    · by_cases hup : info.coordinator = true ∧ info.starting = false
      · simp [hv, hup, pure_eq]
      · have hdown : ¬ info.coordinator ∨ info.starting := by
          rw [not_and_or, Bool.not_eq_false] at hup
          exact hup
        have hfalse : (info.coordinator && !info.starting) = false := by
          rcases hdown with h | h <;> simp [h]
        rw [if_neg hv, if_neg hv, if_pos hdown, hfalse]
        rfl

theorem unmarshalInfo_eq_none_iff {body : String} :
    unmarshalInfo body = none ↔ Json.parse body = some .null := by
  unfold unmarshalInfo
  split <;> simp_all

/-- Only an object has a version. -/
theorem ofJson_version {j : Json} (h : (Info.ofJson j).nodeVersion ≠ "") :
    ∃ members, j = .obj members := by
  cases j with
  | obj members => exact ⟨members, rfl⟩
  | null | bool _ | num _ | str _ | arr _ => exact absurd rfl h

/-- The answer is yes exactly for the body of a cluster that is up. -/
theorem upFor_eq_true_iff : t.upFor status header body = some (.ok true) ↔ UpBody body := by
  rw [upFor_eq, Option.map_eq_some_iff]
  constructor
  · rintro ⟨info, hinfo, hanswer⟩
    split at hanswer
    · cases hanswer
    rename_i hv
    have hup : info.coordinator = true ∧ info.starting = false := by simpa using hanswer
    unfold unmarshalInfo at hinfo
    split at hinfo
    · obtain rfl := Option.some.inj hinfo
      exact absurd rfl hv
    · cases hinfo
    · rename_i j _ hj
      obtain rfl := Option.some.inj hinfo
      obtain ⟨members, rfl⟩ := ofJson_version hv
      exact ⟨members, hj, hup.1, hup.2, hv⟩
  · rintro ⟨members, hj, hc, hs, hv⟩
    refine ⟨Info.ofJson (.obj members), by simp only [unmarshalInfo, hj], ?_⟩
    rw [if_neg hv, hc, hs]
    rfl

/-- **When the answer is right.** -/
theorem reportsUp_iff : ReportsUp t status header body ↔
    Json.parse (Bytes.text body) ≠ some .null ∧ ((200 ≤ status ∧ status < 300) ∨ ¬ UpBody body) := by
  have hanswers : (∃ res, t.upFor status header body = some res) ↔
      Json.parse (Bytes.text body) ≠ some .null := by
    rw [← Option.ne_none_iff_exists', ne_eq, ne_eq, upFor_eq, Option.map_eq_none_iff,
      unmarshalInfo_eq_none_iff]
  rw [← hanswers]
  constructor
  · rintro ⟨res, hres, hiff⟩
    refine ⟨⟨res, hres⟩, ?_⟩
    by_cases hup : UpBody body
    · have hyes : t.upFor status header body = some (.ok true) := upFor_eq_true_iff.mpr hup
      exact Or.inl (hiff.mp (Option.some.inj (hres.symm.trans hyes))).1
    · exact Or.inr hup
  · rintro ⟨⟨res, hres⟩, hcond⟩
    refine ⟨res, hres, ?_⟩
    have hyes : res = .ok true ↔ UpBody body := by
      rw [← upFor_eq_true_iff (t := t), hres, Option.some.injEq]
    rw [hyes]
    rcases hcond with h2xx | hdown
    · exact ⟨fun hup => ⟨h2xx, hup⟩, fun h => h.2⟩
    · exact ⟨fun hup => absurd hup hdown, fun h => h.2⟩

/-- The bytes of a text in ASCII. -/
def ascii (text : String) : List UInt8 := text.toList.map fun c => UInt8.ofNat c.toNat

def someCluster : TrinoClient := { scheme := "http", host := "trino-1:8080", user := "gateway" }

/-- The info of a cluster that is up. -/
def upInfo : String :=
  "\x7b\"nodeVersion\":\x7b\"version\":\"432\"\x7d,\"coordinator\":true,\"starting\":false\x7d"

/-- With status 503 the cluster is up, and the body `null` is a panic. -/
theorem unavailable_up :
    ¬ ReportsUp someCluster 503 [] (ascii upInfo) ∧ ¬ ReportsUp someCluster 200 [] (ascii "null") := by
  have hup : someCluster.upFor 503 [] (ascii upInfo) = some (.ok true) := by decide
  have hnull : someCluster.upFor 200 [] (ascii "null") = none := by decide
  constructor
  · rintro ⟨res, hres, hiff⟩
    have h503 := (hiff.mp (Option.some.inj (hres.symm.trans hup))).1
    omega
  · rintro ⟨res, hres, -⟩
    rw [hnull] at hres
    cases hres

end TrinoGateway.TrinoClient
