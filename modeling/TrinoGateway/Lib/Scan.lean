import Mathlib.Data.List.Basic
import Mathlib.Data.Set.Monotone
import Mathlib.Order.Interval.Set.Basic

/-!
# Scans of a list

`scan key` runs through a list with the least element so far, and reads both keys anew for every
comparison, one reading after another. If no key rises from one reading to a later one, the result
is by the last reading no greater than each element was when the scan came to it (`scan_le`). With
keys that stand still it is the first of the least elements (`scan_first`).

A loop that stores a value under the key of each element, with distinct keys, leaves under a key
what a search for it finds (`foldl_keyed`).
-/

namespace Interact

section Keyed

variable {α σ κ ν : Type*} [DecidableEq κ] {step : σ → α → σ} {key : α → κ} {val : α → ν}
variable {k : κ}

/-- What is stored under a key after a loop over elements with distinct keys. -/
theorem foldl_keyed (stored : σ → ν)
    (hstep : ∀ s a, stored (step s a) = if key a = k then val a else stored s)
    {as : List α} (hd : (as.map key).Nodup) (s : σ) :
    stored (as.foldl step s) = ((as.find? fun a => key a = k).map val).getD (stored s) := by
  induction as generalizing s with
  | nil => rfl
  | cons a as ih =>
    obtain ⟨ha, hrest⟩ := List.nodup_cons.mp hd
    rw [List.foldl_cons, ih hrest, hstep, List.find?_cons]
    by_cases hk : key a = k
    · -- no later element has the key
      have hnone : as.find? (fun b => key b = k) = none := by
        rw [List.find?_eq_none]
        intro b hb hc
        exact ha (List.mem_map.mpr ⟨b, hb, by simpa [hk] using hc⟩)
      simp [hk, hnone]
    · simp [hk]

end Keyed

variable {α β : Type*} [LinearOrder β]

/-- The scan from the `k`-th reading on, which compares each element of the list with `best`. -/
def scan (key : ℕ → α → β) (k : ℕ) (best : α) : List α → α
  | [] => best
  | x :: xs => scan key (k + 2) (if key k x < key (k + 1) best then x else best) xs

variable {key : ℕ → α → β} {k : ℕ} {best : α} {xs : List α}

theorem scan_mem : scan key k best xs ∈ best :: xs := by
  induction xs generalizing k best with
  | nil => exact List.mem_cons_self ..
  | cons x xs ih =>
    rw [scan]
    rcases List.mem_cons.mp (@ih (k + 2) (if key k x < key (k + 1) best then x else best)) with h | h
    · rw [h]
      split
      · exact List.mem_cons_of_mem _ (List.mem_cons_self ..)
      · exact List.mem_cons_self ..
    · exact List.mem_cons_of_mem _ (List.mem_cons_of_mem _ h)

/-- **By the last reading the result is no greater** than the element that the scan began with was
at an earlier one, and than each other was when the scan came to it. -/
theorem scan_le {j m : ℕ} (hjk : j ≤ k) (hjm : j ≤ m) (hm : k + 2 * xs.length ≤ m + 1)
    (hdrop : ∀ x ∈ best :: xs, AntitoneOn (fun i => key i x) (Set.Icc j m)) :
    key m (scan key k best xs) ≤ key j best ∧
      ∀ i x, xs[i]? = some x → key m (scan key k best xs) ≤ key (k + 2 * i) x := by
  induction xs generalizing j k best with
  | nil =>
    refine ⟨hdrop best (List.mem_cons_self ..) ⟨le_rfl, hjm⟩ ⟨hjm, le_rfl⟩ hjm, fun i x hx => ?_⟩
    cases hx
  | cons x xs ih =>
    rw [List.length_cons] at hm
    have hkm : k + 1 ≤ m := by omega
    have hbest := hdrop best (List.mem_cons_self ..)
    have hx := hdrop x (List.mem_cons_of_mem _ (List.mem_cons_self ..))
    set best' := if key k x < key (k + 1) best then x else best with hbest'
    -- after the comparison the new best is below both
    have hle : key (k + 1) best' ≤ key j best ∧ key (k + 1) best' ≤ key k x := by
      have hold : key (k + 1) best ≤ key j best :=
        hbest ⟨le_rfl, hjm⟩ ⟨by omega, hkm⟩ (by omega)
      have hnew : key (k + 1) x ≤ key k x := hx ⟨hjk, by omega⟩ ⟨by omega, hkm⟩ (by omega)
      rw [hbest']
      split
      · rename_i hlt
        exact ⟨hnew.trans (hlt.le.trans hold), hnew⟩
      · rename_i hge
        exact ⟨hold, not_lt.mp hge⟩
    have hmem : best' = x ∨ best' = best := by
      rw [hbest']
      split
      · exact Or.inl rfl
      · exact Or.inr rfl
    have hdrop' : ∀ y ∈ best' :: xs, AntitoneOn (fun i => key i y) (Set.Icc (k + 1) m) := by
      intro y hy
      have hy' : y ∈ best :: x :: xs := by
        rcases List.mem_cons.mp hy with rfl | hy
        · rcases hmem with h | h <;> simp [h]
        · simp [hy]
      exact (hdrop y hy').mono (Set.Icc_subset_Icc_left (by omega))
    obtain ⟨hfirst, hrest⟩ := @ih (k + 2) best' (k + 1) (by omega) hkm (by omega) hdrop'
    refine ⟨hfirst.trans hle.1, fun i y hy => ?_⟩
    cases i with
    | zero =>
      obtain rfl : x = y := Option.some.inj hy
      exact hfirst.trans hle.2
    | succ i =>
      rw [show k + 2 * (i + 1) = k + 2 + 2 * i by omega]
      exact hrest i y hy

/-- The first of the least elements of a list. -/
def IsFirstLeast {β : Type*} [LE β] [LT β] (f : α → β) (xs : List α) (r : α) : Prop :=
  ∃ before after, xs = before ++ r :: after ∧ (∀ x ∈ xs, f r ≤ f x) ∧ ∀ x ∈ before, f r < f x

/-- An element that is there twice at the beginning. -/
theorem IsFirstLeast.of_cons_cons {f : α → β} {x r : α} (h : IsFirstLeast f (x :: x :: xs) r) :
    IsFirstLeast f (x :: xs) r := by
  obtain ⟨before, after, heq, hleast, hbefore⟩ := h
  have hleast' : ∀ y ∈ x :: xs, f r ≤ f y := fun y hy => hleast y (List.mem_cons_of_mem _ hy)
  rcases before with _ | ⟨first, before⟩
  · obtain ⟨hr, -⟩ := List.cons.inj heq
    exact ⟨[], xs, by rw [← hr]; rfl, hleast', fun y hy => by cases hy⟩
  · exact ⟨before, after, (List.cons.inj heq).2, hleast',
      fun y hy => hbefore y (List.mem_cons_of_mem _ hy)⟩

/-- **With keys that stand still** the result is the first of the least elements. -/
theorem scan_first {f : α → β} (hf : ∀ i, k ≤ i → i < k + 2 * xs.length → key i = f) :
    IsFirstLeast f (best :: xs) (scan key k best xs) := by
  induction xs generalizing k best with
  | nil => exact ⟨[], [], rfl, by simp [scan], by simp⟩
  | cons x xs ih =>
    rw [List.length_cons] at hf
    have hih : ∀ best', IsFirstLeast f (best' :: xs) (scan key (k + 2) best' xs) := fun best' =>
      ih fun i hi hi' => hf i (by omega) (by omega)
    rw [scan, hf k le_rfl (by omega), hf (k + 1) (by omega) (by omega)]
    split
    · rename_i hlt
      obtain ⟨before, after, heq, hleast, hbefore⟩ := hih x
      have hr := (hleast x (List.mem_cons_self ..)).trans_lt hlt
      refine ⟨best :: before, after, by rw [heq]; rfl, ?_, ?_⟩
      · exact fun y hy => (List.mem_cons.mp hy).elim (fun h => h ▸ hr.le) (hleast y)
      · exact fun y hy => (List.mem_cons.mp hy).elim (fun h => h ▸ hr) (hbefore y)
    · rename_i hge
      obtain ⟨before, after, heq, hleast, hbefore⟩ := hih best
      have hr := (hleast best (List.mem_cons_self ..)).trans (not_lt.mp hge)
      have hleast' : ∀ y ∈ best :: x :: xs, f (scan key (k + 2) best xs) ≤ f y := by
        intro y hy
        simp only [List.mem_cons] at hy hleast
        rcases hy with rfl | rfl | hy
        · exact hleast y (Or.inl rfl)
        · exact hr
        · exact hleast y (Or.inr hy)
      rcases before with _ | ⟨first, before⟩
      · -- the best of all is still the one that the scan began with
        obtain ⟨hbest, rfl⟩ := List.cons.inj heq
        exact ⟨[], x :: xs, by rw [← hbest]; rfl, hleast', fun y hy => by cases hy⟩
      · obtain ⟨rfl, hxs⟩ := List.cons.inj heq
        refine ⟨best :: x :: before, after, ?_, hleast', fun y hy => ?_⟩
        · exact congrArg (fun l => best :: x :: l) hxs
        simp only [List.mem_cons] at hy hbefore
        rcases hy with rfl | rfl | hy
        · exact hbefore y (Or.inl rfl)
        · exact (hbefore best (Or.inl rfl)).trans_le (not_lt.mp hge)
        · exact hbefore y (Or.inr hy)

end Interact
