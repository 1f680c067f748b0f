import Mathlib.Data.List.Perm.Basic
import Mathlib.Data.List.Nodup
import TrinoGateway.Lib.Scan
import TrinoGateway.Spec.Logger

/-!
# Adding fields to a log entry

`Adds` says what `withFields` is for: a new entry over the one that it is called on, the same for
every order of the range, with an error that names what has been left out. `adds_iff`: **it is so
exactly when nothing is left out and the entry has no error of its own, or has it among its fields
already**. One function among the fields is dropped without a trace, and two are a panic.
-/

namespace TrinoGateway.Entry

open Interact

/-- A map of fields, by one order of its range. -/
structure FieldMap where
  fields : List (String × Any)
  distinct : (fields.map Prod.fst).Nodup

namespace FieldMap

/-- The fields that can be added. -/
def accepted (fm : FieldMap) : List (String × Any) := fm.fields.filter fun f => !isErrField f.2

/-- The keys of the others. -/
def refused (fm : FieldMap) : List String := (fm.fields.filter fun f => isErrField f.2).map Prod.fst

/-- The accepted fields, over those that are there. -/
def overlay (fm : FieldMap) (data : Fields) : Fields := fun k =>
  ((fm.accepted.find? fun f => f.1 = k).map Prod.snd).or (data k)

end FieldMap

variable (cfg : Settings)

/-- The error that names fields, after an earlier error if there is one. -/
def naming (earlier : Option String) (names : List String) : Option String :=
  match earlier.toList ++ names.map (canNotAdd cfg) with
  | [] => none
  | texts => some (", ".intercalate texts)

/-- For every order of the range there is the same new entry, and the old one is as it was. -/
def Adds (entry : Entry) (fm : FieldMap) : Prop :=
  ∃ res : Entry, (∀ order, order.Perm fm.fields → entry.withFields cfg order = some (res, entry)) ∧
    res.data = some (fm.overlay (entry.data.getD fun _ => none)) ∧
    ∃ names, names.Perm fm.refused ∧ res.err = naming cfg entry.err names

variable {cfg} {entry : Entry} {fm : FieldMap}

/-- The data with fields added one after the other. -/
def put (data : Fields) (fields : List (String × Any)) : Fields :=
  fields.foldl (fun d f => Function.update d f.1 (some f.2)) data

/-- Where no field is a function, the loop adds them all. -/
theorem addFields_accepted {err fieldErr : Option String} {fields : List (String × Any)}
    (h : ∀ f ∈ fields, isErrField f.2 = false) (data : Fields) :
    addFields cfg err (data, fieldErr) fields = some (put data fields, fieldErr) := by
  induction fields generalizing data with
  | nil => rfl
  | cons f fields ih =>
    obtain ⟨k, v⟩ := f
    have hv : isErrField v = false := h (k, v) (List.mem_cons_self ..)
    rw [addFields.eq_def]
    simp only [hv, Bool.false_eq_true, if_false]
    exact ih (fun f hf => h f (List.mem_cons_of_mem _ hf)) _

/-- What is under a key in the end. -/
theorem put_apply {fields : List (String × Any)} (hd : (fields.map Prod.fst).Nodup) (data : Fields)
    (k : String) :
    put data fields k = ((fields.find? fun f => f.1 = k).map Prod.snd).or (data k) := by
  have hstep : ∀ (d : Fields) (f : String × Any),
      Function.update d f.1 (some f.2) k = if f.1 = k then some f.2 else d k := by
    intro d f
    rw [Function.update_apply]
    exact if_congr eq_comm rfl rfl
  unfold put
  rw [foldl_keyed (fun d : Fields => d k) hstep hd]
  cases fields.find? fun f => f.1 = k <;> rfl

/-- The order of the range does not matter. -/
theorem put_perm {fields order : List (String × Any)} (hd : (fields.map Prod.fst).Nodup)
    (hp : order.Perm fields) (data : Fields) : put data order = put data fields := by
  refine hp.foldl_eq' (fun f hf g hg d => ?_) data
  by_cases hfg : f = g
  · rw [hfg]
  · have hkey : f.1 ≠ g.1 := fun hc =>
      hfg (List.inj_on_of_nodup_map hd (hp.mem_iff.mp hf) (hp.mem_iff.mp hg) hc)
    exact Function.update_comm hkey ..

/-- Where nothing is left out, the fields are over the data. -/
theorem put_eq_overlay (h : ∀ f ∈ fm.fields, isErrField f.2 = false) (data : Fields) :
    put data fm.fields = fm.overlay data := by
  have hall : fm.accepted = fm.fields := List.filter_eq_self.mpr fun f hf => by simp [h f hf]
  funext k
  rw [put_apply fm.distinct, FieldMap.overlay, hall]

theorem naming_nil (earlier : Option String) : naming cfg earlier [] = earlier := by
  cases earlier <;> simp [naming]

/-- An error that names a field is not the earlier one. -/
theorem naming_ne {earlier : Option String} {names : List String} (h : names ≠ []) :
    naming cfg earlier names ≠ earlier := by
  obtain ⟨k, names, rfl⟩ := List.exists_cons_of_ne_nil h
  cases earlier with
  | none => simp [naming]
  | some e =>
    intro hc
    have hlen := congrArg (fun err => (err.getD "").length) hc
    have hsep : ", ".length = 2 := by decide
    simp only [naming, Option.toList_some, List.singleton_append, List.map_cons,
      String.intercalate_cons_cons, Option.getD_some, String.length_append] at hlen
    omega

/-- The loop over accepted fields, in any order. -/
theorem addFields_of_accepted (h : ∀ f ∈ fm.fields, isErrField f.2 = false)
    {order : List (String × Any)} (hp : order.Perm fm.fields) :
    addFields cfg entry.err (entry.data.getD fun _ => none, entry.err) order =
      some (fm.overlay (entry.data.getD fun _ => none), entry.err) := by
  rw [addFields_accepted fun f hf => h f (hp.mem_iff.mp hf), put_perm fm.distinct hp,
    put_eq_overlay h]

/-- The new entry has the error of the old one. -/
theorem err_of_withFields {fields : List (String × Any)} {res after : Entry}
    (h : entry.withFields cfg fields = some (res, after)) : res.err = entry.err := by
  unfold withFields at h
  split at h
  · cases h
  · split at h
    · cases h
      rfl
    · split at h
      · cases h
      · cases h
        rfl

/-- **When fields are added as they should be.** -/
theorem adds_iff : Adds cfg entry fm ↔
    (∀ f ∈ fm.fields, isErrField f.2 = false) ∧
      ∀ e, entry.err = some e →
        entry.data.bind (fun d => d cfg.errorKey) = some (.error e) := by
  constructor
  · rintro ⟨res, hrun, -, names, hnames, herr⟩
    have hself := hrun fm.fields (List.Perm.refl _)
    have hrefused : fm.refused = [] := by
      by_contra hne
      rw [err_of_withFields hself] at herr
      exact naming_ne (fun hc => hne (hc ▸ hnames).nil_eq.symm) herr.symm
    have hall : ∀ f ∈ fm.fields, isErrField f.2 = false := by
      intro f hf
      have hnot := List.filter_eq_nil_iff.mp (List.map_eq_nil_iff.mp hrefused) f hf
      simpa using hnot
    refine ⟨hall, fun e he => ?_⟩
    rw [withFields, addFields_of_accepted hall (List.Perm.refl _)] at hself
    cases hd : entry.data with
    | none => simp [he, hd] at hself
    | some d =>
      simp only [he, hd, reduceCtorEq, if_false, Option.map_some, Option.getD_some,
        Option.some.injEq, Prod.mk.injEq] at hself
      have hafter := congrArg Entry.data hself.2
      rw [hd] at hafter
      have hkey := congrFun (Option.some.inj hafter) cfg.errorKey
      rw [Function.update_self] at hkey
      exact hkey.symm
  · rintro ⟨hall, hkept⟩
    have hrefused : fm.refused = [] := by
      unfold FieldMap.refused
      rw [List.map_eq_nil_iff, List.filter_eq_nil_iff]
      intro f hf
      simp [hall f hf]
    refine ⟨{ logger := entry.logger
              data := some (fm.overlay (entry.data.getD fun _ => none))
              err := entry.err },
      fun order hp => ?_, rfl, [], by rw [hrefused], (naming_nil _).symm⟩
    obtain ⟨logger, data, level, message, err⟩ := entry
    rw [withFields, addFields_of_accepted hall hp]
    cases err with
    | none => rfl
    | some e =>
      obtain ⟨d, rfl, hde⟩ := Option.bind_eq_some_iff.mp (hkept e rfl)
      have hsame : Function.update d cfg.errorKey (some (Any.error e)) = d := by
        rw [← hde, Function.update_eq_self]
      simp only [reduceCtorEq, if_false, Option.map_some, Option.getD_some, hsame]

/-- Two functions among the fields. -/
def twoFunctions : FieldMap where
  fields := [("a", .of .func "f"), ("b", .of .func "g")]
  distinct := by decide

def asciiSettings : Settings where
  isPrint c := 32 ≤ c.toNat ∧ c.toNat < 127

/-- A new entry panics at the second one. -/
theorem twoFunctions_panic : ¬ Adds asciiSettings { logger := "zap" } twoFunctions := by
  rintro ⟨res, hrun, -⟩
  cases hrun twoFunctions.fields (List.Perm.refl _)

end TrinoGateway.Entry
